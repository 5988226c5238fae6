import DocAnswers.Path.Extension

/-! Implementation languages, told from the extension of a source's name. -/
namespace DocAnswers

inductive Language where
  | c
deriving DecidableEq, Repr

namespace Language

/-- The extensions of sources, without the dot. -/
def extensions : List (List UInt8 × Language) := [("c", .c)]

/-- The name by which people search for the language. -/
def name : Language → String
  | .c => "C"

def ofExtension? (extension : List UInt8) : Option Language := extensions.lookup extension

def ofPath? (p : Path) : Option Language := p.extension?.bind ofExtension?

end Language
end DocAnswers
