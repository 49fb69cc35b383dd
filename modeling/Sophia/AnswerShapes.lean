import Sophia.McpServices
import Sophia.Library.Guarded

namespace Sophia.Mcp
open Json ServiceModels Guarded

-- Neither a result nor an exception of MCP
abbrev Harmful (e : PyError) : Prop := isMcpError e = false

abbrev Parses (x : Except PyError α) (shape : Prop) : Prop := Guarded Harmful x shape

abbrev Fields := List (String × Json)

def field (fields : Fields) (key : String) (default : Json := .null) : Json := (fields.lookup key).getD default

def Object (shape : Fields → Prop) (data : Json) : Prop := ∃ fields, data = .obj fields ∧ shape fields

def IfTruthy (shape : Json → Prop) (value : Json) : Prop := value.truthy = true → shape value

def First (shape : Json → Prop) (value : Json) : Prop := ∃ item, value.first = .ok item ∧ shape item

def Each (shape : Json → Prop) (values : Json) : Prop := ∃ items, values.iterate = .ok items ∧ ∀ item ∈ items, shape item

def Anything (_ : Fields) : Prop := True

def Hashable : Json → Prop
  | .arr _ => False
  | .obj _ => False
  | _ => True

-- x * value of a float x is computed.
def Scalable : Json → Prop
  | .bool _ => True
  | .int value => PyFloat.tooLarge value = false
  | .float _ => True
  | _ => False

-- value / 100 is computed.
def Divisible : Json → Prop
  | .bool _ => True
  | .int value => PyFloat.tooLarge (value / 100) = false
  | .float _ => True
  | _ => False

def IsNumber (value : Json) : Prop := value.number?.isSome = true

section
variable (texts : Texts)

-- float(value) is computed.
def Numeric : Json → Prop
  | .bool _ => True
  | .int value => PyFloat.tooLarge value = false
  | .float _ => True
  | .str text => (texts.floatText text).isSome = true
  | _ => False

-- int(value) is computed.
def Integral : Json → Prop
  | .bool _ => True
  | .int _ => True
  | .float _ => True
  | .str text => (texts.intText text).isSome = true
  | _ => False

end

theorem parses_raised {e : PyError} {p : Prop} (harmful : isMcpError e = false) (fails : ¬ p) :
    Parses (.error e : Except PyError α) p := raised harmful fails

theorem parses_hashable (value : Json) : Parses (hashable value) (Hashable value) := by
  cases value with
  | arr items => exact parses_raised rfl not_false
  | obj fields => exact parses_raised rfl not_false
  | _ => exact Guarded.ok _

theorem parses_iterate (value : Json) : Parses value.iterate (∃ items, value.iterate = .ok items) := by
  cases value with
  | arr items => exact returned _ (by simp [iterate])
  | str text => exact returned _ (by simp [iterate])
  | obj fields => exact returned _ (by simp [iterate])
  | _ => exact parses_raised rfl (by simp [iterate])

theorem parses_first (value : Json) : Parses value.first (∃ item, value.first = .ok item) := by
  cases value with
  | arr items => cases items with
    | nil => exact parses_raised rfl (by simp [first])
    | cons item rest => exact returned _ (by simp [first])
  | str text =>
    simp only [first]
    cases text.toList with
    | nil => exact parses_raised rfl (by simp)
    | cons c rest => exact returned _ (by simp)
  | _ => exact parses_raised rfl (by simp [first])

theorem parses_positive (value : Json) : Parses value.positive (IsNumber value) := by
  unfold positive IsNumber
  cases value.number? with
  | none => exact parses_raised rfl (by simp)
  | some x => exact returned _ (by simp)

theorem parses_ofInt (n : Int) : Parses (PyFloat.ofInt n) (PyFloat.tooLarge n = false) := by
  unfold PyFloat.ofInt
  cases PyFloat.tooLarge n with
  | true => exact parses_raised rfl (by simp)
  | false => exact returned _ (by simp)

theorem parses_scale (x : PyFloat) (value : Json) : Parses (scale x value) (Scalable value) := by
  cases value with
  | bool value => exact Guarded.ok _
  | int value => exact last (parses_ofInt value) fun _ => Guarded.ok _
  | float value => exact Guarded.ok _
  | _ => exact parses_raised rfl not_false

theorem parses_hundredth (value : Json) : Parses value.hundredth (Divisible value) := by
  cases value with
  | bool value => exact Guarded.ok _
  | int value =>
    simp only [hundredth,Divisible]
    cases PyFloat.tooLarge (value / 100) with
    | true => exact parses_raised rfl (by simp)
    | false => exact returned _ (by simp)
  | float value => exact Guarded.ok _
  | _ => exact parses_raised rfl not_false

section
variable (texts : Texts)

theorem parses_toFloat (value : Json) : Parses (value.toFloat texts.floatText) (Numeric texts value) := by
  cases value with
  | bool value => exact Guarded.ok _
  | int value => exact parses_ofInt value
  | float value => exact Guarded.ok _
  | str text =>
    simp only [toFloat,Numeric]
    cases texts.floatText text with
    | none => exact parses_raised rfl (by simp)
    | some x => exact returned _ (by simp)
  | _ => exact parses_raised rfl not_false

theorem parses_toInt (value : Json) : Parses (value.toInt texts.intText) (Integral texts value) := by
  cases value with
  | bool value => exact Guarded.ok _
  | int value => exact Guarded.ok _
  | float value => exact Guarded.ok _
  | str text =>
    simp only [toInt,Integral]
    cases texts.intText text with
    | none => exact parses_raised rfl (by simp)
    | some x => exact returned _ (by simp)
  | _ => exact parses_raised rfl not_false

end

-- The parts of a parser, each with the shape it asks for
theorem parses_each {parse : Json → Except PyError α} {shape : Json → Prop} (each : ∀ item, Parses (parse item) (shape item))
    (values : Json) : Parses (collect parse values) (Each shape values) :=
  opened (parses_iterate values) fun items => Guarded.mapM each items

theorem parses_record (parse : Json → Except PyError α) {shape : Fields → Prop}
    (asks : ∀ data, (∀ fields, data ≠ .obj fields) → parse data = .error .attributeError)
    (each : ∀ fields, Parses (parse (.obj fields)) (shape fields)) (data : Json) : Parses (parse data) (Object shape data) := by
  cases data with
  | obj fields => exact (each fields).congr (by simp [Object])
  | _ =>
    rw [asks _ (by simp)]
    exact parses_raised rfl (by simp [Object])

-- A parser that begins by reading a field asks for an object.
theorem parses_got {key : String} {default : Json} {rest : Json → Json → Except PyError α} {shape : Fields → Prop}
    (parse : Json → Except PyError α) (begins : ∀ data, parse data = data.get key default >>= rest data)
    (each : ∀ fields, Parses (parse (.obj fields)) (shape fields)) : ∀ data, Parses (parse data) (Object shape data) :=
  parses_record parse (fun data other => (begins data).trans (except_raises (get_other other key default))) each

theorem parses_ifTruthy {value : Json} {x : Except PyError α} {shape : Json → Prop} (asked : Parses x (shape value)) (a : α) :
    Parses (if value.truthy then x else .ok a) (IfTruthy shape value) := by
  refine (Guarded.ite (fun _ => asked) fun _ => Guarded.ok a).congr ?_
  unfold IfTruthy
  cases value.truthy <;> simp

theorem parses_ofFirst {parse : Json → Except PyError α} {shape : Json → Prop} (each : ∀ item, Parses (parse item) (shape item))
    (value : Json) : Parses (value.first >>= parse) (First shape value) :=
  opened (parses_first value) each

theorem parses_number (texts : Texts) (fields : Fields) (key : String) :
    Parses (number texts (.obj fields) key) (Numeric texts (field fields key (.int 0))) :=
  known rfl (parses_toFloat texts _)

theorem text_other {data : Json} (other : ∀ fields, data ≠ .obj fields) (texts : Texts) (key : String) :
    text texts data key = .error .attributeError := except_raises (get_other other _ _)

theorem number_other {data : Json} (other : ∀ fields, data ≠ .obj fields) (texts : Texts) (key : String) :
    number texts data key = .error .attributeError := except_raises (get_other other _ _)

theorem parses_text (texts : Texts) (data : Json) (key : String) : Parses (text texts data key) (Object Anything data) :=
  parses_record (text texts · key) (fun _ other => text_other other texts key) (fun _ => known rfl (ok _)) data

theorem parses_read {texts : Texts} {key : String} {rest : Json → String → Except PyError α} {shape : Fields → Prop}
    (parse : Json → Except PyError α) (begins : ∀ data, parse data = text texts data key >>= rest data)
    (each : ∀ fields, Parses (parse (.obj fields)) (shape fields)) : ∀ data, Parses (parse data) (Object shape data) :=
  parses_record parse (fun data other => (begins data).trans (except_raises (text_other other texts key))) each

theorem parses_get (data : Json) (key : String) (default : Json) : Parses (data.get key default) (Object Anything data) :=
  parses_record (Json.get · key default) (fun _ other => get_other other key default) (fun _ => ok _) data

theorem parses_numberOf (texts : Texts) (key : String) (data : Json) : Parses (number texts data key)
    (Object (fun fields => Numeric texts (field fields key (.int 0))) data) :=
  parses_record (number texts · key) (fun _ other => number_other other texts key)
    (fun fields => parses_number texts fields key) data

theorem parses_mapStatus (mapping : List (Json × String)) (value : Json) :
    Parses (mapStatus mapping value) (Hashable value) :=
  last (parses_hashable value) fun _ => ok _

end Sophia.Mcp
