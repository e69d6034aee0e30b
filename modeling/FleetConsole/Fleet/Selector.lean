import FleetConsole.Fleet.Name
import FleetConsole.Json.Basic
import FleetConsole.Text.Quoted

/-!
# Label selectors

A selector is a list of requirements on labels, all of which have to hold. It is written as terms
separated by commas: `k=v` or `k==v`, `k!=v`, `k` for a label that exists and `!k` for one that does
not. Blanks around keys, values and terms do not matter. A blank text selects everything.
-/

namespace FleetConsole

/-- A requirement on labels. -/
inductive Requirement where
  | equals (key value : String)
  | notEquals (key value : String)
  | exists (key : String)
  | lacks (key : String)
deriving DecidableEq, Repr

/-- Labels: keys with their values. -/
abbrev Labels := List (String × String)

namespace Requirement

/-- Do labels meet a requirement? A label that does not exist has no value. -/
def isMet (labels : Labels) : Requirement → Bool
  | equals k v => labels.lookup k = some v
  | notEquals k v => labels.lookup k ≠ some v
  | «exists» k => (labels.lookup k).isSome
  | lacks k => (labels.lookup k).isNone

/-- The term that writes a requirement. -/
def text : Requirement → String
  | equals k v => k ++ "=" ++ v
  | notEquals k v => k ++ "!=" ++ v
  | «exists» k => k
  | lacks k => "!" ++ k

end Requirement

/-- Why a text is no selector. -/
inductive SelectorError where
  | emptyTerm (input : String)
  | invalidKey (key : String)
  | invalidValue (value : String)
deriving DecidableEq, Repr

/-- The wording of a selector error. -/
def SelectorError.message : SelectorError → String
  | emptyTerm input => "empty requirement in selector " ++ Text.quoted input
  | invalidKey key => "invalid label key " ++ Text.quoted key
  | invalidValue value => "invalid label value " ++ Text.quoted value

/-- A label selector. -/
structure Selector where
  requirements : List Requirement
deriving DecidableEq, Repr

namespace Selector

/-- The selector without requirements. -/
def everything : Selector := ⟨[]⟩

/-- Does a selector have no requirements? -/
def isEverything (s : Selector) : Bool := s.requirements.isEmpty

/-- The characters of label values. -/
def isValueChar (c : Char) : Bool := c.isAlphanum || c = '-' || c = '_' || c = '.'

/-- The characters of label keys. -/
def isKeyChar (c : Char) : Bool := isValueChar c || c = '/'

/-- A label key, blanks around it aside. -/
def key (cs : List Char) : Except SelectorError String :=
  let k := Text.trim cs
  if !k.isEmpty && k.all isKeyChar then .ok (String.ofList k)
  else .error (.invalidKey (String.ofList k))

/-- A label value, blanks around it aside. It may be empty. -/
def value (cs : List Char) : Except SelectorError String :=
  let v := Text.trim cs
  if v.all isValueChar then .ok (String.ofList v) else .error (.invalidValue (String.ofList v))

/-- The texts before and after the first occurrence of a sign. -/
def splitAt? (sign : List Char) : List Char → Option (List Char × List Char)
  | [] => none
  | c :: cs =>
    if sign.isPrefixOf (c :: cs) then some ([], (c :: cs).drop sign.length)
    else (splitAt? sign cs).map fun (a, b) => (c :: a, b)

/-- The requirement of a term. The signs are looked for in the order `!=`, `==`, `=`. -/
def requirement (term : List Char) : Except SelectorError Requirement :=
  match splitAt? ['!', '='] term with
  | some (k, v) => do return .notEquals (← key k) (← value v)
  | none =>
    match splitAt? ['=', '='] term with
    | some (k, v) => do return .equals (← key k) (← value v)
    | none =>
      match splitAt? ['='] term with
      | some (k, v) => do return .equals (← key k) (← value v)
      | none =>
        match term with
        | '!' :: k => do return .lacks (← key k)
        | k => do return .exists (← key k)

/-- The pieces of a text between commas. -/
def pieces : List Char → List (List Char)
  | [] => [[]]
  | c :: cs =>
    if c = ',' then [] :: pieces cs
    else match pieces cs with
      | p :: ps => (c :: p) :: ps
      | [] => [[c]]

/-- The selector that a text writes. A term may be blank only if the whole text is. -/
def parse (input : String) : Except SelectorError Selector := do
  let cs := input.toList
  if cs.all Text.isBlank then return everything
  else
    let term (piece : List Char) : Except SelectorError Requirement :=
      let t := Text.trim piece
      if t.isEmpty then .error (.emptyTerm input) else requirement t
    return ⟨← (pieces cs).mapM term⟩

/-- The selector that a text writes; a malformed text selects everything. -/
def parseLenient (input : String) : Selector :=
  match parse input with
  | .ok s => s
  | .error _ => everything

/-- Do labels meet all requirements? -/
def selects (s : Selector) (labels : Labels) : Bool := s.requirements.all (·.isMet labels)

/-- The labels of a document: those whose value is a text. -/
def labelsOf (doc : Json) : Labels :=
  match (doc.path? ["metadata", "labels"]).bind Json.entries? with
  | some es => es.filterMap fun e => e.2.string?.map fun v => (e.1, v)
  | none => []

/-- Does the selector select a document? -/
def selectsDocument (s : Selector) (doc : Json) : Bool := s.selects (labelsOf doc)

/-- The text that writes a selector. -/
def text (s : Selector) : String := String.intercalate "," (s.requirements.map (·.text))

end Selector

end FleetConsole
