/-! Fetching the text at a URL, and what can go wrong with it. -/
namespace DocAnswers

inductive FetchError where
  /-- Nothing was received. -/
  | transport (url message : String)
  /-- The answer was another one than the page. -/
  | status (url : String) (code : Nat)
  /-- The page broke off or was not readable. -/
  | body (url reason : String)
deriving DecidableEq, Repr

def FetchError.message : FetchError → String
  | transport url message => "transport error for " ++ url ++ ": " ++ message
  | status url code => "HTTP status " ++ toString code ++ " for " ++ url
  | body url reason => "failed to read body of " ++ url ++ ": " ++ reason

abbrev Fetcher := String → Except FetchError String

/-- The part of a URL before its first colon. -/
def schemeOf (url : String) : String := String.ofList (url.toList.takeWhile (· ≠ ':'))

/-- Fetches nothing, as there is no scheme that it knows. -/
def Fetcher.unserved : Fetcher := fun url =>
  .error (.transport url (url ++ ": Unknown Scheme: unknown scheme '" ++ schemeOf url ++ "'"))

end DocAnswers
