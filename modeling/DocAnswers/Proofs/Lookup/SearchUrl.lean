import DocAnswers.Lookup.Search
import DocAnswers.Proofs.Text.Cut
import DocAnswers.Proofs.Text.PercentEncoding
import Mathlib.Data.List.Forall2
import Mathlib.Data.List.TakeWhile

/-! The URL of a search, as whoever gets it takes it apart. The query is in it with all its characters,
and it only goes on with what the configuration has begun: it starts no parameter, no fragment and no
restriction to a site. -/
namespace DocAnswers
open Text

namespace Text

/-- A word does not reach into a text that does not have its last character. -/
theorem prefix_append_iff (without : c ∉ back) (word front : List Char) :
    word ++ [c] <+: front ++ back ↔ word ++ [c] <+: front := by
  constructor
  · rintro ⟨rest, split⟩
    rcases List.append_eq_append_iff.mp split with ⟨middle, is, -⟩ | ⟨middle, is, tail⟩
    · exact ⟨middle, is.symm⟩
    · rcases List.eq_nil_or_concat middle with rfl | ⟨start, last, rfl⟩
      · rw [List.append_nil] at is
        exact is ▸ List.prefix_refl _
      · rw [List.concat_eq_append, ← List.append_assoc] at is
        obtain rfl := List.singleton_inj.mp (List.append_inj_right' is rfl)
        exact absurd (by simp [tail]) without
  · exact fun start => start.trans (List.prefix_append _ _)

end Text

namespace Url

/-- What stands behind the first number sign, if there is one. -/
def fragment? (url : List Char) : Option (List Char) :=
  if '#' ∈ url then some ((url.dropWhile (· ≠ '#')).drop 1) else none

/-- What stands behind the first question mark, up to the fragment. -/
def query (url : List Char) : List Char :=
  ((url.takeWhile (· ≠ '#')).dropWhile (· ≠ '?')).drop 1

def parameters (url : List Char) : List (List Char) := cut (· == '&') (query url)

/-- Whether a restriction to a site stands at some place of a URL, with no character of it encoded. -/
def RestrictsAt (url : List Char) (i : Nat) : Prop := ['s', 'i', 't', 'e', ':'] <+: url.drop i

/-- Whether a URL differs from the front of it only in that its last value goes on. -/
structure GoesOn (front url : List Char) : Prop where
  parameters : List.Forall₂ (· <+: ·) (parameters front) (parameters url)
  fragment : (fragment? url).isSome = (fragment? front).isSome
  restriction : ∀ i, RestrictsAt url i ↔ RestrictsAt front i

section Front
variable {front more : List Char}

theorem query_append_fragment (fragment : '#' ∈ front) : query (front ++ more) = query front := by
  obtain ⟨before, behind, rfl⟩ := List.append_of_mem fragment
  have cut : (before ++ '#' :: behind ++ more).takeWhile (· ≠ '#') =
      (before ++ '#' :: behind).takeWhile (· ≠ '#') := by
    simp [List.takeWhile_append]
  rw [query, cut, query]

theorem query_append (asks : '?' ∈ front) (whole : '#' ∉ front) (without : '#' ∉ more) :
    query (front ++ more) = query front ++ more := by
  have all (cs : List Char) (without : '#' ∉ cs) : cs.takeWhile (· ≠ '#') = cs :=
    List.takeWhile_eq_self_iff.mpr fun c member => decide_eq_true fun is => without (is ▸ member)
  have some : front.dropWhile (· ≠ '?') ≠ [] := by
    intro none
    simpa using List.dropWhile_eq_nil_iff.mp none '?' asks
  have both : '#' ∉ front ++ more := by simp [whole, without]
  rw [query, query, all _ both, all _ whole, List.dropWhile_append, if_neg (by simpa using some),
    List.drop_append_of_le_length (List.length_pos_iff.mpr some)]

theorem goesOn_append (asks : '?' ∈ front)
    (plain : ∀ c ∈ more, c ≠ '#' ∧ c ≠ '&' ∧ c ≠ ':') : GoesOn front (front ++ more) := by
  have noSharp : '#' ∉ more := fun member => (plain _ member).1 rfl
  have noColon : ':' ∉ more := fun member => (plain _ member).2.2 rfl
  have same (ps : List (List Char)) : List.Forall₂ (· <+: ·) ps ps :=
    List.forall₂_same.mpr fun _ _ => List.prefix_rfl
  refine ⟨?_, ?_, fun i => ?_⟩
  · by_cases fragment : '#' ∈ front
    · rw [parameters, parameters, query_append_fragment fragment]
      exact same _
    · have whole : ∀ c ∈ more, (c == '&') = false := fun c member =>
        beq_false_of_ne (plain c member).2.1
      obtain ⟨pieces, last, before, after⟩ := exists_cut_append whole (query front)
      rw [parameters, parameters, query_append asks fragment noSharp, before, after]
      exact List.rel_append (same _) (.cons (List.prefix_append _ _) .nil)
  · simp [fragment?, noSharp, apply_ite Option.isSome]
  · rw [RestrictsAt, RestrictsAt, List.drop_append]
    have back : ':' ∉ more.drop (i - front.length) := fun member => noColon (List.mem_of_mem_drop member)
    exact prefix_append_iff back ['s', 'i', 't', 'e'] _

end Front
end Url

namespace Engine

/-- What the URLs of all searches begin with. -/
def front (e : Engine) : String := e.endpoint ++ "?q=site:" ++ e.site ++ "%20"

/-- Behind what the configuration says, the URL of a search has the bytes of the query in unreserved
characters and percent signs with two digits. So no two queries have the same URL, and whatever the
query is, the URL has no other parameters, fragment and restrictions to a site than its front. -/
theorem url_holds_query (e : Engine) :
    (∀ query, ∃ encoded, e.url query = e.front ++ encoded ∧
      PercentEncoding.Encoded encoded.toList ∧
      PercentEncoding.decode encoded.toList = query.toByteArray.data.toList) ∧
    Function.Injective e.url ∧
    ∀ query, Url.GoesOn e.front.toList (e.url query).toList := by
  refine ⟨fun query => ?_, ?_, fun query => ?_⟩
  · exact ⟨PercentEncoding.encode query, rfl, PercentEncoding.encoded_encode query,
      PercentEncoding.decode_encode query⟩
  · intro query query' same
    exact PercentEncoding.encode_injective (String.append_right_inj _ |>.mp same)
  · have encoded := PercentEncoding.encoded_encode query
    have asks : '?' ∈ e.front.toList := by simp [front]
    have whole : (e.url query).toList = e.front.toList ++ (PercentEncoding.encode query).toList :=
      String.toList_append
    rw [whole]
    apply Url.goesOn_append asks
    intro c member
    refine ⟨?_, ?_, ?_⟩
    · rintro rfl
      exact encoded.not_mem (by decide) (by decide) member
    · rintro rfl
      exact encoded.not_mem (by decide) (by decide) member
    · rintro rfl
      exact encoded.not_mem (by decide) (by decide) member

end Engine
end DocAnswers
