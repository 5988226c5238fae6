import DocAnswers.Html.Tree.Construction
import DocAnswers.Proofs.Html.Escape

/-! Written tags and text, and the tokens that they are read as. -/
namespace DocAnswers.Html

namespace TagScan

theorem attributes?_close (rest : List Char) : attributes? ('>' :: rest) = some ([], false, rest) := by
  have front : ('>' :: rest).dropWhile isSpace = '>' :: rest := rfl
  rw [attributes?]
  split <;> simp_all

theorem quoted_of_not_mem (unquoted : quote ∉ value) (rest : List Char) :
    quoted quote (value ++ quote :: rest) = some (value, rest) := by
  have inside : ∀ c ∈ value, decide (c ≠ quote) = true := by
    intro c member
    simp only [ne_eq, decide_not, Bool.not_eq_true', decide_eq_false_iff_not]
    rintro rfl
    exact unquoted member
  rw [quoted, List.dropWhile_append_of_pos inside, List.takeWhile_append_of_pos inside]
  simp

theorem attributes?_of_front {value after : List Char} (front : cs.dropWhile isSpace = c :: rest)
    (plain : isAttributeChar c = true)
    (behind : (rest.dropWhile isAttributeChar).dropWhile isSpace = '=' :: afterEquals)
    (read : value? afterEquals = some (value, after)) :
    attributes? cs = (attributes? after).map fun found =>
      (⟨nameOf (c :: rest.takeWhile isAttributeChar), valueOf value⟩ :: found.1, found.2) := by
  simp only [isAttributeChar, isNameChar, Bool.and_eq_true, Bool.not_eq_true', bne_iff_ne] at plain
  obtain ⟨⟨⟨-, slash⟩, bracket⟩, -⟩ := plain
  rw [attributes?]
  split
  all_goals
    rename_i front'
    rw [front] at front'
  · contradiction
  · exact absurd (List.cons.inj front').1 bracket
  · exact absurd (List.cons.inj front').1 slash
  · exact absurd (List.cons.inj front').1 slash
  · obtain ⟨rfl, rfl⟩ := List.cons.inj front'
    split
    · rename_i behind'
      rw [behind] at behind'
      obtain ⟨-, rfl⟩ := List.cons.inj behind'
      split
      all_goals
        rename_i read'
        rw [read] at read'
      · contradiction
      · obtain ⟨rfl, rfl⟩ := Prod.mk.inj (Option.some.inj read')
        rfl
    · rename_i other
      exact absurd behind (other _)

/-- An attribute as it is usually written. -/
def written (name value : List Char) : List Char :=
  ' ' :: name ++ '=' :: '"' :: CharRef.escape value ++ ['"']

theorem valueOf_escape (plain : '\x00' ∉ value) :
    valueOf (CharRef.escape value) = String.ofList value := by
  have kept : ∀ c ∈ CharRef.escape value, (if c = '\x00' then Text.replacement else c) = c := by
    intro c member
    apply if_neg
    rintro rfl
    rcases (CharRef.of_mem_escape member).2 with inside | letter
    · exact plain inside
    · simp at letter
  rw [valueOf, replaceNul, List.map_congr_left kept, List.map_id', CharRef.decode_escape]

theorem attributes?_written (named : ∀ d ∈ c :: name, isAttributeChar d = true)
    (plain : '\x00' ∉ value) (rest : List Char) :
    attributes? (written (c :: name) value ++ rest) = (attributes? rest).map fun found =>
      (⟨nameOf (c :: name), String.ofList value⟩ :: found.1, found.2) := by
  have unquoted : '"' ∉ CharRef.escape value := fun member => (CharRef.of_mem_escape member).1 rfl
  obtain ⟨letter, others⟩ := List.forall_mem_cons.mp named
  have text : written (c :: name) value ++ rest =
      ' ' :: c :: (name ++ '=' :: '"' :: (CharRef.escape value ++ '"' :: rest)) := by
    simp [written]
  have solid : isSpace c = false := by
    simp only [isAttributeChar, isNameChar, Bool.and_eq_true, Bool.not_eq_true'] at letter
    exact letter.1.1.1
  have front : (' ' :: c :: (name ++ '=' :: '"' :: (CharRef.escape value ++ '"' :: rest))).dropWhile isSpace =
      c :: (name ++ '=' :: '"' :: (CharRef.escape value ++ '"' :: rest)) := by
    rw [List.dropWhile_cons_of_pos (by rfl), List.dropWhile_cons_of_neg (by simp [solid])]
  have behind : ((name ++ '=' :: '"' :: (CharRef.escape value ++ '"' :: rest)).dropWhile
      isAttributeChar).dropWhile isSpace = '=' :: '"' :: (CharRef.escape value ++ '"' :: rest) := by
    rw [List.dropWhile_append_of_pos others]
    rfl
  have read : value? ('"' :: (CharRef.escape value ++ '"' :: rest)) = some (CharRef.escape value, rest) :=
    quoted_of_not_mem unquoted rest
  rw [text, attributes?_of_front front letter behind read, List.takeWhile_append_of_pos others,
    valueOf_escape plain]
  have ends : ('=' :: '"' :: (CharRef.escape value ++ '"' :: rest)).takeWhile isAttributeChar = [] := rfl
  rw [ends, List.append_nil]

/-- A tag's name ends where something else than a name's character stands. -/
theorem read?_name (named : ∀ d ∈ name, isNameChar d = true)
    (ends : ∀ c ∈ rest.head?, isNameChar c = false) :
    read? (name ++ rest) = (attributes? rest).map fun found =>
      (⟨nameOf name, keepFirst found.1, found.2.1⟩, found.2.2) := by
  have front : (name ++ rest).takeWhile isNameChar = name := by
    rw [List.takeWhile_append_of_pos named]
    cases rest with
    | nil => simp
    | cons c cs => simp [ends c rfl]
  have behind : (name ++ rest).dropWhile isNameChar = rest := by
    rw [List.dropWhile_append_of_pos named]
    cases rest with
    | nil => rfl
    | cons c cs => simp [ends c rfl]
  rw [read?, front, behind]
  cases attributes? rest <;> rfl

/-- The text of a tag from behind its bracket, with its attributes as they are usually written. -/
def tagText (name : List Char) (attributes : List (List Char × List Char)) : List Char :=
  name ++ attributes.flatMap (fun a => written a.1 a.2) ++ ['>']

/-- What an attribute has to be like to be written without further ado. -/
structure Writable (a : List Char × List Char) : Prop where
  nonempty : a.1 ≠ []
  named : ∀ c ∈ a.1, isAttributeChar c = true
  plain : '\x00' ∉ a.2

theorem attributes?_flatMap {attributes : List (List Char × List Char)}
    (writable : ∀ a ∈ attributes, Writable a) (rest : List Char) :
    attributes? (attributes.flatMap (fun a => written a.1 a.2) ++ '>' :: rest) =
      some (attributes.map fun a => ⟨nameOf a.1, String.ofList a.2⟩, false, rest) := by
  induction attributes with
  | nil => exact attributes?_close rest
  | cons a attributes ih =>
    obtain ⟨first, later⟩ := List.forall_mem_cons.mp writable
    obtain ⟨name, value⟩ := a
    obtain ⟨nonempty, named, plain⟩ := first
    cases name with
    | nil => contradiction
    | cons c name =>
      rw [List.flatMap_cons, List.append_assoc, attributes?_written named plain, ih later]
      rfl

/-- A tag is read as it is written. -/
theorem read?_tagText {attributes : List (List Char × List Char)}
    (named : ∀ c ∈ name, isNameChar c = true) (writable : ∀ a ∈ attributes, Writable a)
    (rest : List Char) :
    read? (tagText name attributes ++ rest) = some
      (⟨nameOf name, keepFirst (attributes.map fun a => ⟨nameOf a.1, String.ofList a.2⟩), false⟩,
        rest) := by
  have text : tagText name attributes ++ rest =
      name ++ (attributes.flatMap (fun a => written a.1 a.2) ++ '>' :: rest) := by
    simp [tagText]
  have ends : ∀ c ∈ (attributes.flatMap (fun a => written a.1 a.2) ++ '>' :: rest).head?,
      isNameChar c = false := by
    intro c first
    cases attributes with
    | nil =>
      obtain rfl := Option.some.inj first
      rfl
    | cons a attributes =>
      obtain rfl := Option.some.inj first
      rfl
  rw [text, read?_name named ends, attributes?_flatMap writable, Option.map_some]

end TagScan

namespace Token

theorem unifyNewlines_of_not_mem (without : '\r' ∉ cs) : unifyNewlines cs = cs := by
  fun_induction unifyNewlines cs with
  | case1 => simp at without
  | case2 => simp at without
  | case3 c cs _ _ ih => rw [ih fun later => without (.tail _ later)]
  | case4 => rfl

theorem prepare_of_not_mem (marked : cs.head? ≠ some '\ufeff') (without : '\r' ∉ cs) :
    prepare cs = cs := by
  unfold prepare
  split
  · simp at marked
  · exact unifyNewlines_of_not_mem without

end Token

namespace Tree.Builder
variable {b b' b'' : Builder}

/-- A state in which markup is expected. -/
structure Ready (b : Builder) : Prop where
  model : b.contentModel = .markup
  native : b.inForeign = false

/-- Whether a text takes one state to another one, whatever follows the text. -/
def Reads (b : Builder) (cs : List Char) (b' : Builder) : Prop :=
  ∀ rest, b.run (cs ++ rest) = b'.run rest

theorem Reads.refl (b : Builder) : Reads b [] b := fun _ => rfl

theorem Reads.append (first : Reads b cs b') (second : Reads b' ds b'') :
    Reads b (cs ++ ds) b'' := by
  intro rest
  rw [List.append_assoc, first, second]

theorem Reads.run (reads : Reads b cs b') : b.run cs = b'.run [] := by
  have := reads []
  rwa [List.append_nil] at this

theorem feedRaw_of_markup (model : b.contentModel = .markup) (cs : List Char) :
    b.feedRaw cs = (b, cs) := by
  obtain ⟨⟩ := b
  obtain rfl := model
  rfl

theorem run_nil (model : b.contentModel = .markup) : b.run [] = b.feed .eof := by
  rw [run, feedRaw_of_markup model]

theorem run_cons (ready : b.Ready) (c : Char) (rest : List Char) :
    b.run (c :: rest) =
      (b.feedAll (Token.front false c rest).1).run (Token.front false c rest).2 := by
  rw [run, feedRaw_of_markup ready.model, ← ready.native]

theorem reads_char (ready : b.Ready) (c : Char) (tag : c ≠ '<') (reference : c ≠ '&') :
    Reads b [c] (b.feed (.char c)) := by
  intro rest
  rw [List.singleton_append, run_cons ready, Token.front, if_neg tag, if_neg reference]
  rfl

theorem reads_escapeChar (ready : b.Ready) (c : Char) :
    Reads b (CharRef.escapeChar c) (b.feed (.char c)) := by
  rcases CharRef.escapeChar_eq c with ⟨name, listed, is⟩ | ⟨is, reference, tag, -⟩
  · intro rest
    rw [is, List.cons_append, run_cons ready, Token.front, if_neg (by decide), if_pos rfl,
      CharRef.read?_markup listed]
    simp only [List.drop_left]
    rfl
  · rw [is]
    exact reads_char ready c tag reference

theorem reads_startTag (ready : b.Ready) (letter : c.isAlpha = true)
    (read : ∀ rest, TagScan.read? (c :: cs ++ rest) = some (tag, rest)) :
    Reads b ('<' :: c :: cs) (b.feed (.startTag tag)) := by
  intro rest
  have front : Token.front false '<' (c :: (cs ++ rest)) = ([.startTag tag], rest) := by
    have slash : c ≠ '/' := by
      rintro rfl
      contradiction
    have read := read rest
    rw [List.cons_append] at read
    rw [Token.front, if_pos rfl, Token.bracket, if_pos letter, read]
    · exact fun is => absurd is slash
    · exact fun _ _ is => absurd is slash
  rw [List.cons_append, List.cons_append, run_cons ready, front]
  rfl

theorem reads_endTag (ready : b.Ready) (letter : c.isAlpha = true)
    (read : ∀ rest, TagScan.read? (c :: cs ++ rest) = some (tag, rest)) :
    Reads b ('<' :: '/' :: c :: cs) (b.feed (.endTag tag.name)) := by
  intro rest
  have front : Token.front false '<' ('/' :: c :: (cs ++ rest)) = ([.endTag tag.name], rest) := by
    have read := read rest
    rw [List.cons_append] at read
    rw [Token.front, if_pos rfl, Token.bracket, if_pos letter, read]
  rw [List.cons_append, List.cons_append, List.cons_append, run_cons ready, front]
  rfl

end Tree.Builder
end DocAnswers.Html
