import StreamConformance.Text.Quoted

/-!
# Elements of a stream

What the harness needs to know of the type of a stream's elements: how to compare and to show them,
the name of the type, and how many bytes one place in a queue of them takes.

## Main definitions

* `Element` — a type of stream elements.
* `Element.same` — whether two elements are equal; `Element.same_iff` says that it is equality.
-/

namespace StreamConformance

/-- A type of stream elements. -/
class Element (α : Type) where
  /-- Equality of elements can be decided. -/
  decidableEq : DecidableEq α
  /-- The element as it stands in messages. -/
  debugText : α → String
  /-- The name of the type as it stands in messages. -/
  typeName : String
  /-- The size of one place in a queue of such elements, in bytes. -/
  placeBytes : Nat

/-- Whether two elements are equal. -/
def Element.same {α : Type} [Element α] (a b : α) : Bool :=
  match Element.decidableEq a b with
  | isTrue _ => true
  | isFalse _ => false

/-- Two elements are the same if and only if they are equal. -/
theorem Element.same_iff {α : Type} [Element α] (a b : α) : Element.same a b = true ↔ a = b := by
  unfold Element.same
  split <;> simp_all

instance : Element UInt64 where
  decidableEq := instDecidableEqUInt64
  debugText n := toString n.toNat
  typeName := "u64"
  placeBytes := 16

instance : Element Int64 where
  decidableEq := instDecidableEqInt64
  debugText n := toString n.toInt
  typeName := "i64"
  placeBytes := 16

instance : Element String where
  decidableEq := instDecidableEqString
  debugText := Text.quoted
  typeName := "alloc::string::String"
  placeBytes := 24

instance : Element (Option Int64) where
  decidableEq := @Option.instDecidableEq Int64 instDecidableEqInt64
  debugText
    | none => "None"
    | some n => "Some(" ++ toString n.toInt ++ ")"
  typeName := "core::option::Option<i64>"
  placeBytes := 16

instance : Element (List String) where
  decidableEq := @instDecidableEqList String instDecidableEqString
  debugText items := Text.listed (items.map Text.quoted)
  typeName := "alloc::vec::Vec<alloc::string::String>"
  placeBytes := 24

end StreamConformance
