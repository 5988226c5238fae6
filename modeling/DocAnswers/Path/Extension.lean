import DocAnswers.Path.Basic

/-! The extension of a path: what follows the last dot of its file name, if something stands before
that dot. -/
namespace DocAnswers.Path
open Text

/-- A name as stem and extension. A name whose only dot is its first letter has no extension. -/
def splitName (name : List UInt8) : List UInt8 × Option (List UInt8) :=
  let r := name.reverse
  match r.dropWhile (· ≠ dot) with
  | [] => (name, none)
  | [_] => (name, none)
  | _ :: before => (before.reverse, some (r.takeWhile (· ≠ dot)).reverse)

def extension? (p : Path) : Option (List UInt8) := p.fileName?.bind fun name => (splitName name).2

/-- A reversed path without the slashes and the `.` segments at its end. -/
def dropTrailing : List UInt8 → List UInt8
  | [] => []
  | b :: r =>
    if b == slash || (b == dot && r.head? == some slash) then dropTrailing r else b :: r

/-- A path up to the end of the file name. -/
def toNameEnd (bs : List UInt8) : List UInt8 := (dropTrailing bs.reverse).reverse

/-- A file name's extension replaced, and everything after the name dropped. -/
def setExtension (bs extension : List UInt8) : List UInt8 :=
  match (Path.mk bs).fileName? with
  | none => bs
  | some name =>
    let bare := toNameEnd bs
    bare.take (bare.length - name.length) ++ (splitName name).1 ++
      (if extension.isEmpty then [] else dot :: extension)

/-- The path without as many of its last bytes as its extension has. -/
def dropExtension (p : Path) : List UInt8 :=
  match p.extension? with
  | none => p.bytes
  | some e => p.bytes.take (p.bytes.length - e.length)

/-- The path with another extension, or with none where the new one is empty. A path without a file
name stays as it is, and so does what is left of a name such as `..c` once its extension is gone. -/
def withExtension (p : Path) (extension : List UInt8) : Path :=
  ⟨setExtension p.dropExtension extension⟩

end DocAnswers.Path
