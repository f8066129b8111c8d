import Std.Data.ExtTreeMap
import PromptGraph.Json.Basic

/-!
Literals: JSON values proper, in which an object is a map.

A literal is a document in normal form: the keys of every object ascend strictly. Any document
has one, in which the last of the members with one key counts.
-/

namespace PromptGraph

/-- A map from names, listed in the order of the names. -/
abbrev NameMap (α : Type) := Std.ExtTreeMap String α

namespace NameMap

/-- Every value of a map of a list satisfies what every value of the list satisfies. -/
theorem forall_mem_toList_insertMany {α : Type} {P : α → Prop} {l : List (String × α)}
    (h : ∀ p ∈ l, P p.2) {m : NameMap α} (hm : ∀ p ∈ m.toList, P p.2) :
    ∀ p ∈ (m.insertMany l).toList, P p.2 := by
  induction l generalizing m with
  | nil => simpa using hm
  | cons q l ih =>
    rw [Std.ExtTreeMap.insertMany_cons]
    refine ih (fun p hp => h p (List.mem_cons_of_mem _ hp)) fun p hp => ?_
    have hp := Std.ExtTreeMap.mem_toList_iff_getElem?_eq_some.1 hp
    rw [Std.ExtTreeMap.getElem?_insert] at hp
    split at hp
    · exact Option.some.inj hp ▸ h q List.mem_cons_self
    · exact hm p (Std.ExtTreeMap.mem_toList_iff_getElem?_eq_some.2 hp)

theorem forall_mem_toList_ofList {α : Type} {P : α → Prop} {l : List (String × α)}
    (h : ∀ p ∈ l, P p.2) : ∀ p ∈ (Std.ExtTreeMap.ofList l).toList, P p.2 := by
  rw [Std.ExtTreeMap.ofList_eq_insertMany_empty]
  exact forall_mem_toList_insertMany h (by simp)

end NameMap

namespace Json

/-- The keys of the members ascend strictly. -/
def Ascending (ms : List (String × Json)) : Prop :=
  ms.Pairwise fun a b => compare a.1 b.1 = .lt

mutual

/-- Normal form: in every object the keys ascend strictly. -/
def Normal : Json → Prop
  | .array xs => ItemsNormal xs
  | .object ms => Ascending ms ∧ MembersNormal ms
  | _ => True

def ItemsNormal : List Json → Prop
  | [] => True
  | x :: xs => x.Normal ∧ ItemsNormal xs

def MembersNormal : List (String × Json) → Prop
  | [] => True
  | (_, v) :: ms => v.Normal ∧ MembersNormal ms

end

mutual

/-- The normal form of a document. -/
def normalize : Json → Json
  | .array xs => .array (normalizeItems xs)
  | .object ms => .object (Std.ExtTreeMap.ofList (normalizeMembers ms)).toList
  | j => j

def normalizeItems : List Json → List Json
  | [] => []
  | x :: xs => x.normalize :: normalizeItems xs

def normalizeMembers : List (String × Json) → List (String × Json)
  | [] => []
  | (k, v) :: ms => (k, v.normalize) :: normalizeMembers ms

end

theorem membersNormal_iff {ms : List (String × Json)} :
    MembersNormal ms ↔ ∀ p ∈ ms, p.2.Normal := by
  induction ms with
  | nil => simp [MembersNormal]
  | cons p ms ih => simp [MembersNormal, ih]

theorem itemsNormal_iff {xs : List Json} : ItemsNormal xs ↔ ∀ x ∈ xs, x.Normal := by
  induction xs with
  | nil => simp [ItemsNormal]
  | cons x xs ih => simp [ItemsNormal, ih]

mutual

theorem normalize_normal : ∀ j : Json, j.normalize.Normal
  | .array xs => by simpa [normalize, Normal] using normalizeItems_normal xs
  | .object ms => by
    refine ⟨?_, membersNormal_iff.2 ?_⟩
    · exact Std.ExtTreeMap.ordered_keys_toList
    · exact NameMap.forall_mem_toList_ofList (membersNormal_iff.1 (normalizeMembers_normal ms))
  | .null | .bool _ | .number _ | .string _ => by simp [normalize, Normal]

theorem normalizeItems_normal : ∀ xs : List Json, ItemsNormal (normalizeItems xs)
  | [] => trivial
  | x :: xs => ⟨normalize_normal x, normalizeItems_normal xs⟩

theorem normalizeMembers_normal :
    ∀ ms : List (String × Json), MembersNormal (normalizeMembers ms)
  | [] => trivial
  | (_, v) :: ms => ⟨normalize_normal v, normalizeMembers_normal ms⟩

end

end Json

/-- A JSON value that an input can take. -/
structure Literal where
  json : Json
  normal : json.Normal

namespace Literal

@[ext] theorem ext {a b : Literal} (h : a.json = b.json) : a = b := by
  cases a; cases b; cases h; rfl

def ofJson (j : Json) : Literal := ⟨j.normalize, j.normalize_normal⟩

def null : Literal := ⟨.null, trivial⟩

def ofBool (b : Bool) : Literal := ⟨.bool b, trivial⟩

def ofString (s : String) : Literal := ⟨.string s, trivial⟩

def ofNumber (n : Json.Number) : Literal := ⟨.number n, trivial⟩

/-- A number that is not finite has no JSON form and becomes null. -/
def ofDouble : Double → Literal
  | .finite x => ofNumber (.float x)
  | .infinite _ | .nan => null

def ofUInt32 (n : UInt32) : Literal := ofNumber (.ofUInt32 n)

def ofUInt64 (n : UInt64) : Literal := ofNumber (.ofUInt64 n)

def text (a : Literal) : String := a.json.compact

/-- Equality of values: numbers are compared as numbers. -/
def agrees (a b : Literal) : Bool := a.json.agrees b.json

end Literal

end PromptGraph
