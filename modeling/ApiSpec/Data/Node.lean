import ApiSpec.Json.Value

/-!
# Documents as read

A document read from JSON or YAML text, before it is decoded into the library's types. Each
node knows where it started and where it stopped, because the messages of a decoder point at
one or the other. A reader that meets bad text does not give up the part it has read: the rest
becomes a `broken` node holding the fault, and a decoder that walks that far reports it. So a
decoder reports the first fault in reading order, whether of syntax or of type.
-/

namespace ApiSpec

/-- A place in a text: line from 1, and a column as the format counts it. -/
structure Mark where
  line : Nat
  column : Nat
  deriving DecidableEq, Inhabited, Repr

/-- Why a reader stopped, and where. -/
structure Fault where
  message : String
  mark : Mark
  deriving Inhabited, Repr

/-- A leaf of a document. JSON leaves are typed; a YAML leaf is text that the decoder
interprets, and it knows whether it was written plain (unquoted). -/
inductive Scalar where
  | null
  | bool (b : Bool)
  | number (n : JsonNumber)
  | string (s : String)
  | text (s : String) (plain : Bool)
  deriving Inhabited, Repr

/-- A node of a document. A `broken` node stands for the rest of a text that did not read. -/
inductive Node where
  | scalar (s : Scalar) (start stop : Mark)
  | seq (items : List Node) (start stop : Mark)
  | map (entries : List (Node × Node)) (start stop : Mark)
  | tagged (tag : String) (body : Node) (start : Mark)
  | broken (fault : Fault)
  deriving Inhabited, Repr

namespace Node

/-- Where the node starts. -/
def start : Node → Mark
  | .scalar _ m _ => m
  | .seq _ m _ => m
  | .map _ m _ => m
  | .tagged _ _ m => m
  | .broken f => f.mark

/-- Where the node stops. -/
def stop : Node → Mark
  | .scalar _ _ m => m
  | .seq _ _ m => m
  | .map _ _ m => m
  | .tagged _ b _ => b.start
  | .broken f => f.mark

/-- The text of a key: a string or YAML scalar. -/
def keyText? : Node → Option String
  | .scalar (.string s) _ _ => some s
  | .scalar (.text s _) _ _ => some s
  | _ => none

/-- The value of the last entry of that key in a map, as a JSON object keeps it. -/
def lookup (n : Node) (key : String) : Option Node :=
  match n with
  | .map entries _ _ =>
    entries.foldl (fun acc (k, v) => if k.keyText? == some key then some v else acc) none
  | _ => none

/-- The text of a string leaf. -/
def string? : Node → Option String
  | .scalar (.string s) _ _ => some s
  | _ => none

/-- The first fault of a document in reading order, if it did not read to the end. -/
def firstFault : Node → Option Fault
  | .broken f => some f
  | .scalar .. => none
  | .tagged _ b _ => firstFault b
  | .seq items _ _ => firstFaultItems items
  | .map entries _ _ => firstFaultEntries entries
where
  /-- The first fault among items. -/
  firstFaultItems : List Node → Option Fault
    | [] => none
    | n :: rest => (firstFault n).orElse fun _ => firstFaultItems rest
  /-- The first fault among entries. -/
  firstFaultEntries : List (Node × Node) → Option Fault
    | [] => none
    | (k, v) :: rest =>
      ((firstFault k).orElse fun _ => firstFault v).orElse fun _ => firstFaultEntries rest

end Node

end ApiSpec
