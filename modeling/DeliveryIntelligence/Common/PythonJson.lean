import DeliveryIntelligence.Common.Json
import DeliveryIntelligence.Common.Python

set_option autoImplicit false

/-!
# Python values as JSON documents

`toJson` is the document a value stands for, `dumpJson` the one a writer without words for floats
that are not finite writes for it: such a float becomes `null`. A string with an unpaired
surrogate is in no document. A float keeps at least one decimal place in a document, so it differs
from every integer literal.
-/

/-! ## Documents -/

namespace Json

mutual

/-- The number of arrays and objects around the innermost value. -/
def depth : Json → Nat
  | .array items => itemsDepth items + 1
  | .object members => membersDepth members + 1
  | _ => 0

def itemsDepth : List Json → Nat
  | [] => 0
  | value :: rest => max (depth value) (itemsDepth rest)

def membersDepth : List (String × Json) → Nat
  | [] => 0
  | (_, value) :: rest => max (depth value) (membersDepth rest)

end

mutual

/-- The text of the document spells finite numbers only, and integers Python reads back. -/
def printable : Json → Bool
  | .nonFinite _ => false
  | .number mantissa 0 => (Python.str mantissa).isSome
  | .array items => itemsPrintable items
  | .object members => membersPrintable members
  | _ => true

def itemsPrintable : List Json → Bool
  | [] => true
  | value :: rest => printable value && itemsPrintable rest

def membersPrintable : List (String × Json) → Bool
  | [] => true
  | (_, value) :: rest => printable value && membersPrintable rest

end

end Json

namespace Python

/-! ## Values -/

/-- Induction over a value with the members of its lists and dictionaries. -/
theorem Value.induct {motive : Value → Prop} (none : motive .none)
    (bool : ∀ b, motive (.bool b)) (int : ∀ n, motive (.int n))
    (float : ∀ repr, motive (.float repr)) (str : ∀ codePoints, motive (.str codePoints))
    (list : ∀ items, (∀ v ∈ items, motive v) → motive (.list items))
    (dict : ∀ members, (∀ m ∈ members, motive m.2) → motive (.dict members)) :
    ∀ v, motive v := by
  intro v
  refine @Value.rec motive (fun items => ∀ v ∈ items, motive v)
    (fun members => ∀ m ∈ members, motive m.2) (fun m => motive m.2)
    none bool int float str list dict ?_ ?_ ?_ ?_ ?_ v
  · intro v hv
    cases hv
  · intro head rest hhead hrest v hv
    rcases List.mem_cons.mp hv with rfl | hmem
    · exact hhead
    · exact hrest v hmem
  · intro m hm
    cases hm
  · intro head rest hhead hrest m hm
    rcases List.mem_cons.mp hm with rfl | hmem
    · exact hhead
    · exact hrest m hmem
  · intro name v hv
    exact hv

mutual

/-- Every scalar and every key within a value passes its test. -/
def Value.forAll (scalar : Value → Bool) (key : List Nat → Bool) : Value → Bool
  | .list items => itemsForAll scalar key items
  | .dict members => membersForAll scalar key members
  | v => scalar v

def itemsForAll (scalar : Value → Bool) (key : List Nat → Bool) : List Value → Bool
  | [] => true
  | v :: rest => v.forAll scalar key && itemsForAll scalar key rest

def membersForAll (scalar : Value → Bool) (key : List Nat → Bool) :
    List (List Nat × Value) → Bool
  | [] => true
  | (name, v) :: rest => key name && v.forAll scalar key && membersForAll scalar key rest

end

theorem itemsForAll_eq (scalar : Value → Bool) (key : List Nat → Bool) (items : List Value) :
    itemsForAll scalar key items = items.all (Value.forAll scalar key) := by
  induction items with
  | nil => rfl
  | cons v rest ih => rw [itemsForAll, ih, List.all_cons]

theorem membersForAll_eq (scalar : Value → Bool) (key : List Nat → Bool)
    (members : List (List Nat × Value)) :
    membersForAll scalar key members
      = members.all fun m => key m.1 && m.2.forAll scalar key := by
  induction members with
  | nil => rfl
  | cons m rest ih => rw [membersForAll, ih, List.all_cons]

theorem Value.forAll_list {scalar : Value → Bool} {key : List Nat → Bool} {items : List Value} :
    (Value.list items).forAll scalar key = true
      ↔ ∀ v ∈ items, v.forAll scalar key = true := by
  rw [Value.forAll, itemsForAll_eq, List.all_eq_true]

theorem Value.forAll_dict {scalar : Value → Bool} {key : List Nat → Bool}
    {members : List (List Nat × Value)} :
    (Value.dict members).forAll scalar key = true
      ↔ ∀ m ∈ members, key m.1 = true ∧ m.2.forAll scalar key = true := by
  rw [Value.forAll, membersForAll_eq, List.all_eq_true]
  simp only [Bool.and_eq_true]

/-- The JSON word of a float that is not finite. -/
def nonFiniteWord : String → Option String
  | "nan" => some "NaN"
  | "inf" => some "Infinity"
  | "-inf" => some "-Infinity"
  | _ => none

/-- No float within the value is infinite or not a number. -/
def Value.finite : Value → Bool :=
  Value.forAll (fun | .float repr => (nonFiniteWord repr).isNone | _ => true) fun _ => true

/-- No string or key within the value has an unpaired surrogate. -/
def Value.paired : Value → Bool :=
  Value.forAll (fun | .str codePoints => (text codePoints).isSome | _ => true)
    fun name => (text name).isSome

/-- The limit on the digits of an integer, which `json.loads` enforces. -/
def Value.withinDigits : Value → Bool :=
  Value.forAll (fun | .int n => (Python.str n).isSome | _ => true) fun _ => true

/-! ## The document of a value -/

/-- The value of decimal digits. -/
def digitsValue (digits : List Char) : Nat :=
  digits.foldl (fun n c => 10 * n + (c.toNat - '0'.toNat)) 0

/-- The exponent of a float's text. -/
def exponentValue : List Char → Int
  | _ :: '-' :: digits => -Int.ofNat (digitsValue digits)
  | _ :: '+' :: digits => Int.ofNat (digitsValue digits)
  | _ :: digits => Int.ofNat (digitsValue digits)
  | [] => 0

/-- The decimal a finite float's `repr` spells, with at least one place. -/
def decimalOfRepr (repr : String) : Int × Nat :=
  let unsigned := repr.toList.dropWhile (· == '-')
  let significand := unsigned.takeWhile (· != 'e')
  let fractional := (significand.dropWhile (· != '.')).drop 1
  let digits := Int.ofNat (digitsValue (significand.takeWhile (· != '.') ++ fractional))
  let scale := Int.ofNat fractional.length - exponentValue (unsigned.dropWhile (· != 'e'))
  let places := max 1 scale.toNat
  let mantissa := digits * 10 ^ (Int.ofNat places - scale).toNat
  (if repr.toList.head? = some '-' then -mantissa else mantissa, places)

example : decimalOfRepr "-2.5e-07" = (-25, 8) := by decide

def floatJson (nonFinite : String → Json) (repr : String) : Json :=
  match nonFiniteWord repr with
  | some word => nonFinite word
  | none => .number (decimalOfRepr repr).1 (decimalOfRepr repr).2

mutual

/-- A value as a document, with a document for each float that is not finite. -/
def Value.convert (nonFinite : String → Json) : Value → Option Json
  | .none => some .null
  | .bool b => some (.bool b)
  | .int n => some (.number n 0)
  | .float repr => some (floatJson nonFinite repr)
  | .str codePoints => (text codePoints).map .string
  | .list items => (convertItems nonFinite items).map .array
  | .dict members => (convertMembers nonFinite members).map .object

def convertItems (nonFinite : String → Json) : List Value → Option (List Json)
  | [] => some []
  | v :: rest => do
      let value ← v.convert nonFinite
      let values ← convertItems nonFinite rest
      return value :: values

def convertMembers (nonFinite : String → Json) :
    List (List Nat × Value) → Option (List (String × Json))
  | [] => some []
  | (name, v) :: rest => do
      let key ← text name
      let value ← v.convert nonFinite
      let members ← convertMembers nonFinite rest
      return (key, value) :: members

end

/-- The document that stands for the value. -/
def Value.toJson : Value → Option Json := Value.convert .nonFinite

/-- The document with `null` for a float that is not finite. -/
def Value.dumpJson : Value → Option Json := Value.convert fun _ => .null

/-! ## When there is a document, and which -/

theorem exists_left_of_mem {α β : Type} {R : α → β → Prop} {xs : List α} {ys : List β}
    (h : List.Forall₂ R xs ys) {y : β} (hy : y ∈ ys) : ∃ x ∈ xs, R x y := by
  induction h with
  | nil => cases hy
  | cons hhead _ ih =>
      rcases List.mem_cons.mp hy with rfl | hmem
      · exact ⟨_, List.mem_cons_self, hhead⟩
      · obtain ⟨x, hx, hR⟩ := ih hmem
        exact ⟨x, List.mem_cons_of_mem _ hx, hR⟩

theorem exists_right_of_mem {α β : Type} {R : α → β → Prop} {xs : List α} {ys : List β}
    (h : List.Forall₂ R xs ys) {x : α} (hx : x ∈ xs) : ∃ y ∈ ys, R x y :=
  exists_left_of_mem (R := flip R) (List.Forall₂.flip h) hx

variable {f g : String → Json}

theorem convertItems_some {items : List Value} {values : List Json}
    (h : convertItems f items = some values) :
    List.Forall₂ (fun v d => v.convert f = some d) items values := by
  induction items generalizing values with
  | nil =>
      cases h
      exact .nil
  | cons v rest ih =>
      obtain ⟨value, hvalue, h⟩ := Option.bind_eq_some_iff.mp h
      obtain ⟨tail, htail, h⟩ := Option.bind_eq_some_iff.mp h
      cases h
      exact .cons hvalue (ih htail)

theorem convertMembers_some {members : List (List Nat × Value)} {named : List (String × Json)}
    (h : convertMembers f members = some named) :
    List.Forall₂ (fun m d => text m.1 = some d.1 ∧ m.2.convert f = some d.2) members named := by
  induction members generalizing named with
  | nil =>
      cases h
      exact .nil
  | cons m rest ih =>
      obtain ⟨key, hkey, h⟩ := Option.bind_eq_some_iff.mp h
      obtain ⟨value, hvalue, h⟩ := Option.bind_eq_some_iff.mp h
      obtain ⟨tail, htail, h⟩ := Option.bind_eq_some_iff.mp h
      cases h
      exact .cons ⟨hkey, hvalue⟩ (ih htail)

/-- A value has a document exactly when its strings have no unpaired surrogate. -/
theorem isSome_convert (f : String → Json) (v : Value) : (v.convert f).isSome = v.paired := by
  induction v using Value.induct with
  | none => rfl
  | bool b => rfl
  | int n => rfl
  | float repr => rfl
  | str codePoints =>
      show ((text codePoints).map Json.string).isSome = (text codePoints).isSome
      rw [Option.isSome_map]
  | list items ih =>
      show ((convertItems f items).map Json.array).isSome = itemsForAll _ _ items
      rw [Option.isSome_map]
      induction items with
      | nil => rfl
      | cons v rest ihRest =>
          rw [itemsForAll, ← ihRest fun w hw => ih w (List.mem_cons_of_mem _ hw)]
          have hhead := ih v List.mem_cons_self
          rw [Value.paired] at hhead
          rw [← hhead, convertItems]
          cases v.convert f <;> cases convertItems f rest <;> rfl
  | dict members ih =>
      show ((convertMembers f members).map Json.object).isSome = membersForAll _ _ members
      rw [Option.isSome_map]
      induction members with
      | nil => rfl
      | cons m rest ihRest =>
          rw [membersForAll, ← ihRest fun w hw => ih w (List.mem_cons_of_mem _ hw)]
          have hhead := ih m List.mem_cons_self
          rw [Value.paired] at hhead
          rw [← hhead, convertMembers]
          cases text m.1 <;> cases m.2.convert f <;> cases convertMembers f rest <;> rfl

theorem convertItems_congr {items : List Value} (h : ∀ v ∈ items, v.convert f = v.convert g) :
    convertItems f items = convertItems g items := by
  induction items with
  | nil => rfl
  | cons v rest ih =>
      rw [convertItems, convertItems, h v List.mem_cons_self,
        ih fun w hw => h w (List.mem_cons_of_mem _ hw)]

theorem convertMembers_congr {members : List (List Nat × Value)}
    (h : ∀ m ∈ members, m.2.convert f = m.2.convert g) :
    convertMembers f members = convertMembers g members := by
  induction members with
  | nil => rfl
  | cons m rest ih =>
      rw [convertMembers, convertMembers, h m List.mem_cons_self,
        ih fun w hw => h w (List.mem_cons_of_mem _ hw)]

/-- A finite value has one document, whatever a float that is not finite becomes. -/
theorem convert_of_finite (f g : String → Json) {v : Value} (h : v.finite = true) :
    v.convert f = v.convert g := by
  induction v using Value.induct with
  | none => rfl
  | bool b => rfl
  | int n => rfl
  | float repr =>
      have hword : nonFiniteWord repr = none := Option.isNone_iff_eq_none.mp h
      show some (floatJson f repr) = some (floatJson g repr)
      unfold floatJson
      rw [hword]
  | str codePoints => rfl
  | list items ih =>
      have hall := Value.forAll_list.mp h
      rw [Value.convert, Value.convert, convertItems_congr fun v hv => ih v hv (hall v hv)]
  | dict members ih =>
      have hall := Value.forAll_dict.mp h
      rw [Value.convert, Value.convert, convertMembers_congr fun m hm => ih m hm (hall m hm).2]

/-! ### What the text of the document can spell -/

theorem itemsPrintable_eq (values : List Json) :
    Json.itemsPrintable values = values.all Json.printable := by
  induction values with
  | nil => rfl
  | cons d rest ih => rw [Json.itemsPrintable, ih, List.all_cons]

theorem membersPrintable_eq (members : List (String × Json)) :
    Json.membersPrintable members = members.all fun m => m.2.printable := by
  induction members with
  | nil => rfl
  | cons m rest ih => rw [Json.membersPrintable, ih, List.all_cons]

theorem exists_places (repr : String) : ∃ n, (decimalOfRepr repr).2 = n + 1 := by
  refine ⟨(decimalOfRepr repr).2 - 1, ?_⟩
  have : 1 ≤ (decimalOfRepr repr).2 := Nat.le_max_left 1 _
  omega

theorem printable_floatJson {repr : String} (h : ∀ word, nonFiniteWord repr = some word →
    (f word).printable = true) : (floatJson f repr).printable = true := by
  unfold floatJson
  cases hword : nonFiniteWord repr with
  | some word => exact h word hword
  | none =>
      -- a float keeps a decimal place, so the limit on integers does not apply
      obtain ⟨n, hn⟩ := exists_places repr
      show (Json.number _ _).printable = true
      rw [hn]
      rfl

/-- A dumped value has a printable document. -/
theorem printable_dumpJson {v : Value} {d : Json} (hdigits : v.withinDigits = true)
    (h : v.dumpJson = some d) : d.printable = true := by
  induction v using Value.induct generalizing d with
  | none => cases h; rfl
  | bool b => cases h; rfl
  | int n => cases h; exact hdigits
  | float repr =>
      cases h
      exact printable_floatJson fun word _ => rfl
  | str codePoints =>
      obtain ⟨s, -, rfl⟩ := Option.map_eq_some_iff.mp h
      rfl
  | list items ih =>
      have hall := Value.forAll_list.mp hdigits
      obtain ⟨values, hvalues, rfl⟩ := Option.map_eq_some_iff.mp h
      rw [Json.printable, itemsPrintable_eq, List.all_eq_true]
      intro d hd
      obtain ⟨v, hv, hconvert⟩ := exists_left_of_mem (convertItems_some hvalues) hd
      exact ih v hv (hall v hv) hconvert
  | dict members ih =>
      have hall := Value.forAll_dict.mp hdigits
      obtain ⟨named, hnamed, rfl⟩ := Option.map_eq_some_iff.mp h
      rw [Json.printable, membersPrintable_eq, List.all_eq_true]
      intro d hd
      obtain ⟨m, hm, -, hconvert⟩ := exists_left_of_mem (convertMembers_some hnamed) hd
      exact ih m hm (hall m hm).2 hconvert

/-- A value whose document is printable is finite. -/
theorem finite_of_printable {v : Value} {d : Json} (h : v.toJson = some d)
    (hprintable : d.printable = true) : v.finite = true := by
  induction v using Value.induct generalizing d with
  | none => rfl
  | bool b => rfl
  | int n => rfl
  | float repr =>
      cases h
      show (nonFiniteWord repr).isNone = true
      cases hword : nonFiniteWord repr with
      | none => rfl
      | some word =>
          unfold floatJson at hprintable
          rw [hword] at hprintable
          cases hprintable
  | str codePoints => rfl
  | list items ih =>
      obtain ⟨values, hvalues, rfl⟩ := Option.map_eq_some_iff.mp h
      rw [Json.printable, itemsPrintable_eq, List.all_eq_true] at hprintable
      refine Value.forAll_list.mpr fun v hv => ?_
      obtain ⟨d, hd, hconvert⟩ := exists_right_of_mem (convertItems_some hvalues) hv
      exact ih v hv hconvert (hprintable d hd)
  | dict members ih =>
      obtain ⟨named, hnamed, rfl⟩ := Option.map_eq_some_iff.mp h
      rw [Json.printable, membersPrintable_eq, List.all_eq_true] at hprintable
      refine Value.forAll_dict.mpr fun m hm => ⟨rfl, ?_⟩
      obtain ⟨d, hd, -, hconvert⟩ := exists_right_of_mem (convertMembers_some hnamed) hm
      exact ih m hm hconvert (hprintable d hd)

/-- The dumped document is the one that stands for the value exactly when no float is lost. -/
theorem dumpJson_eq_toJson_iff {v : Value} {d : Json} (hdigits : v.withinDigits = true)
    (h : v.dumpJson = some d) : v.toJson = some d ↔ v.finite = true := by
  constructor
  · intro hd
    exact finite_of_printable hd (printable_dumpJson hdigits h)
  · intro hfinite
    rw [← h]
    exact convert_of_finite _ _ hfinite

end Python
