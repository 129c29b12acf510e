import ApiSpec.Decode.Basic
import ApiSpec.Json.Reader
import ApiSpec.Yaml.Read

/-!
# Decoding texts

A decoder runs over a whole text, JSON or YAML, and its failure is told as one message.

The order of the checks is the order in which a reader meets them:

* JSON: the value, then whatever follows it (only blanks may);
* YAML: the first document, then a fault right after it, then a second document.

In the value, a fault of the text and a value of the wrong shape are told in reading order,
because the text was read into a `Node` that keeps the part before the fault.
-/

namespace ApiSpec

namespace Decode

/-- Decodes a JSON text. -/
def fromJsonText {α : Type} (d : Decoder α) (text : String) : Except String α :=
  let (n, trailing) := Json.readDocument text
  match d (Site.root .jsonText) n with
  | .error e => .error (e.render .jsonText)
  | .ok a =>
    match trailing with
    | some f => .error (DecodeError.render .jsonText (.fault f))
    | none => .ok a

/-- Decodes a YAML text. -/
def fromYaml {α : Type} (d : Decoder α) (text : String) : Except String α :=
  let doc := Yaml.read text
  match d (Site.root .yaml) doc.root with
  | .error e => .error (e.render .yaml)
  | .ok a =>
    match doc.trailing with
    | some msg => .error msg
    | none => if doc.more then .error Yaml.moreDocuments else .ok a

end Decode

end ApiSpec
