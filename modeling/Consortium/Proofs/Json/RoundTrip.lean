import Consortium.Json.Ledger
import Consortium.Proofs.Json.Text

/-!
Values are read back from the text that is written for them. A codec is faithful if what it writes
is well spelled and is read as the value that it was written for. Each way to build a codec from
others keeps this, so it holds of every type that is written.
-/

namespace Consortium.Json

open Codec Std

class Faithful (α : Type) [Codec α] : Prop where
  wellSpelled (value : α) : (write value).WellSpelled
  read_write (value : α) : read (write value) = some value

attribute [simp] Faithful.wellSpelled Faithful.read_write

/-- What is written is never null, so null is free to stand for a missing value. -/
class NeverNull (α : Type) [Codec α] : Prop where
  write_ne_null (value : α) : write value ≠ .null

theorem read?_text {α : Type} [Codec α] [Faithful α] (value : α) :
    read? (text value) = some value := by
  rw [read?, text, Value.ofText?_toText (Faithful.wellSpelled value), Option.bind_some,
    Faithful.read_write]

theorem faithful_viaPartial {α β : Type} [Codec β] [Faithful β] {split : α → β}
    {join? : β → Option α} (joins : ∀ value, join? (split value) = some value) :
    @Faithful α (.viaPartial split join?) :=
  @Faithful.mk α (.viaPartial split join?) (fun value => Faithful.wellSpelled (split value))
    fun value => by
      change (read (write (split value))).bind join? = some value
      rw [Faithful.read_write, Option.bind_some, joins]

/-! ### Numbers and texts -/

theorem digitsValue_toDigits (number : Nat) : digitsValue (Nat.toDigits 10 number) = number := by
  have same (digits : List Char) : digitsValue digits = Nat.ofDigitChars 10 digits 0 := by
    simp only [digitsValue, Nat.ofDigitChars, Nat.mul_comm]
    rfl
  rw [same, Nat.ofDigitChars_ten_toDigits]

theorem readNat_ofNat (number : Nat) : readNat (.ofNat number) = some number := by
  have areDigits : (Nat.toDigits 10 number).all Text.isDigit = true :=
    List.all_eq_true.2 fun _ => Text.isDigit_of_mem_toDigits
  simp only [Value.ofNat, readNat, Nat.toString_eq_repr, Nat.toList_repr]
  rw [if_pos areDigits, digitsValue_toDigits]

theorem readBelow_ofNat {number bound : Nat} (below : number < bound) :
    readBelow bound (.ofNat number) = some number := by
  simp [readBelow, readNat_ofNat, below]

instance : Faithful UInt8 where
  wellSpelled number := .number number.toNat
  read_write number := by
    change (readBelow UInt8.size (.ofNat number.toNat)).map UInt8.ofNat = some number
    rw [readBelow_ofNat number.toNat_lt, Option.map_some, UInt8.ofNat_toNat]

instance : Faithful UInt32 where
  wellSpelled number := .number number.toNat
  read_write number := by
    change (readBelow UInt32.size (.ofNat number.toNat)).map UInt32.ofNat = some number
    rw [readBelow_ofNat number.toNat_lt, Option.map_some, UInt32.ofNat_toNat]

instance : Faithful UInt64 where
  wellSpelled number := .number number.toNat
  read_write number := by
    change (readBelow UInt64.size (.ofNat number.toNat)).map UInt64.ofNat = some number
    rw [readBelow_ofNat number.toNat_lt, Option.map_some, UInt64.ofNat_toNat]

theorem literalText?_write (text : String) :
    literalText? (Literal.write text.toList) = some text := by
  simp [literalText?, Literal.read?_write]

instance : Faithful String where
  wellSpelled text := .string text.toList
  read_write := literalText?_write

instance : NeverNull String where
  write_ne_null _ := Value.noConfusion

/-! ### Options and sequences -/

instance {α : Type} [Codec α] [Faithful α] [NeverNull α] : Faithful (Option α) where
  wellSpelled
    | none => .null
    | some value => Faithful.wellSpelled value
  read_write
    | none => rfl
    | some value => by
        have some_write : write (some value) = write value := rfl
        have notNull := NeverNull.write_ne_null value
        have readWritten := Faithful.read_write value
        rw [some_write]
        generalize write value = written at notNull readWritten
        cases written with
        | null => exact absurd rfl notNull
        | bool | number | string | array | object => exact congrArg (Option.map some) readWritten

theorem mapM_map_of_read {α β : Type} (put : α → β) (get? : β → Option α) {values : List α}
    (gets : ∀ value ∈ values, get? (put value) = some value) :
    (values.map put).mapM get? = some values := by
  induction values with
  | nil => rfl
  | cons first others ih =>
      obtain ⟨getsFirst, getsOthers⟩ := List.forall_mem_cons.1 gets
      simp [getsFirst, ih getsOthers]

instance {α : Type} [Codec α] [Faithful α] : Faithful (List α) where
  wellSpelled values := .array fun item member => by
    obtain ⟨value, _, rfl⟩ := List.mem_map.1 member
    exact Faithful.wellSpelled value
  read_write values := mapM_map_of_read write read fun value _ => Faithful.read_write value

instance {α : Type} [Codec α] [Faithful α] [Ord α] [TransOrd α] [LawfulEqOrd α] :
    Faithful (SortedSet α) :=
  faithful_viaPartial fun set => congrArg some set.ofList_toList

instance {size : Nat} : Faithful (Block size) :=
  faithful_viaPartial Block.ofList?_toList

instance {ν : Type} [Codec ν] [Faithful ν] : Faithful (SortedMap String ν) where
  wellSpelled map := by
    refine .object (fun field member => ?_) fun field member => ?_
    · obtain ⟨entry, _, rfl⟩ := List.mem_map.1 member
      exact ⟨_, rfl⟩
    · obtain ⟨entry, _, rfl⟩ := List.mem_map.1 member
      exact Faithful.wellSpelled entry.2
  read_write map := by
    let put (entry : String × ν) : List Char × Value :=
      (Literal.write entry.1.toList, write entry.2)
    have readEntries : (map.entries.map put).mapM readEntry = some map.entries :=
      mapM_map_of_read put readEntry fun entry _ => by simp [put, readEntry, literalText?_write]
    change ((map.entries.map put).mapM readEntry).map SortedMap.ofList = some map
    rw [readEntries, Option.map_some, SortedMap.ofList_entries]

/-! ### Records -/

theorem wellSpelled_record {fields : List (String × Value)}
    (spelled : ∀ field ∈ fields, field.2.WellSpelled) : (record fields).WellSpelled := by
  refine .object (fun field member => ?_) fun field member => ?_
  · obtain ⟨original, _, rfl⟩ := List.mem_map.1 member
    exact ⟨_, rfl⟩
  · obtain ⟨original, inFields, rfl⟩ := List.mem_map.1 member
    exact spelled original inFields

theorem namedFields_record (known : List String) {fields : List (String × Value)}
    (areKnown : ∀ field ∈ fields, field.1 ∈ known) (distinct : (fields.map Prod.fst).Nodup) :
    namedFields known (fields.map fun field => (Literal.write field.1.toList, field.2)) =
      some fields := by
  induction fields with
  | nil => rfl
  | cons first others ih =>
      obtain ⟨firstKnown, othersKnown⟩ := List.forall_mem_cons.1 areKnown
      obtain ⟨absent, othersDistinct⟩ := List.nodup_cons.1 distinct
      have notFound : (others.any fun field => decide (field.1 = first.1)) = false := by
        rw [List.any_eq_false]
        intro field member same
        rw [← of_decide_eq_true same] at absent
        exact absent (List.mem_map_of_mem member)
      simp [namedFields, literalText?_write, ih othersKnown othersDistinct, firstKnown, notFound]

theorem fieldsInOrder_eq {found : List (String × Value)} {rules : List FieldRule}
    (present : ∀ rule ∈ rules, (found.lookup rule.name).isSome) :
    fieldsInOrder found rules = some (rules.map fun rule => found.lookup rule.name) := by
  induction rules with
  | nil => rfl
  | cons rule rules ih =>
      obtain ⟨isPresent, othersPresent⟩ := List.forall_mem_cons.1 present
      have notNone : (found.lookup rule.name).isNone = false := by
        rw [← Option.not_isSome, isPresent]
        rfl
      simp [fieldsInOrder, ih othersPresent, notNone]

theorem lookup_of_mem {fields : List (String × Value)} (distinct : (fields.map Prod.fst).Nodup)
    {field : String × Value} (member : field ∈ fields) : fields.lookup field.1 = some field.2 := by
  induction fields with
  | nil => cases member
  | cons first others ih =>
      obtain ⟨absent, othersDistinct⟩ := List.nodup_cons.1 distinct
      rcases List.mem_cons.1 member with rfl | member
      · exact List.lookup_cons_self
      · have different : field.1 ≠ first.1 := by
          intro same
          rw [← same] at absent
          exact absent (List.mem_map_of_mem member)
        rw [List.lookup_cons, beq_false_of_ne different]
        exact ih othersDistinct member

theorem readRecord_record {rules : List FieldRule} {fields : List (String × Value)}
    (sameNames : rules.map FieldRule.name = fields.map Prod.fst)
    (distinct : (fields.map Prod.fst).Nodup) :
    readRecord rules (record fields) = some (fields.map fun field => some field.2) := by
  have found : namedFields (rules.map FieldRule.name)
      (fields.map fun field => (Literal.write field.1.toList, field.2)) = some fields :=
    namedFields_record _ (fun field member => by rw [sameNames]; exact List.mem_map_of_mem member)
      distinct
  have present (rule : FieldRule) (member : rule ∈ rules) :
      (fields.lookup rule.name).isSome := by
    have named : rule.name ∈ fields.map Prod.fst := sameNames ▸ List.mem_map_of_mem member
    obtain ⟨field, inFields, same⟩ := List.mem_map.1 named
    rw [← same, lookup_of_mem distinct inFields]
    rfl
  change (namedFields (rules.map FieldRule.name) _).bind (fieldsInOrder · rules) = _
  calc (namedFields (rules.map FieldRule.name) _).bind (fieldsInOrder · rules)
    _ = fieldsInOrder fields rules := by rw [found, Option.bind_some]
    _ = some (rules.map fun rule => fields.lookup rule.name) := fieldsInOrder_eq present
    _ = some ((rules.map FieldRule.name).map fun name => fields.lookup name) := by
      rw [List.map_map]; rfl
    _ = some (fields.map fun field => fields.lookup field.1) := by
      rw [sameNames, List.map_map]; rfl
    _ = some (fields.map fun field => some field.2) :=
      congrArg some (List.map_congr_left fun field => lookup_of_mem distinct)

theorem read_of_record {α : Type} {rules : List FieldRule} {fields : List (String × Value)}
    {finish : List (Option Value) → Option α} {value : α}
    (sameNames : rules.map FieldRule.name = fields.map Prod.fst)
    (distinct : (rules.map FieldRule.name).Nodup)
    (finishes : finish (fields.map fun field => some field.2) = some value) :
    (readRecord rules (record fields)).bind finish = some value := by
  rw [readRecord_record sameNames (sameNames ▸ distinct), Option.bind_some, finishes]

/-! ### Alternatives -/

theorem faithful_ofNames {α : Type} {alternatives : List α} {name : α → String}
    (found : ∀ value, alternatives.find? (fun other => decide (name other = name value)) =
      some value) : @Faithful α (.ofNames alternatives name) :=
  @Faithful.mk α (.ofNames alternatives name) (fun value => .string (name value).toList)
    fun value => by
      have named : readAlternative (.ofText (name value)) = some (name value, none) :=
        congrArg (Option.map fun name => (name, none)) (literalText?_write (name value))
      change (readAlternative (.ofText (name value))).bind _ = some value
      rw [named]
      exact found value

theorem faithful_ofCases {α β : Type} [Codec α] [Faithful α] [Codec β] [Faithful β]
    {first second : String} (different : second ≠ first) :
    @Faithful (α ⊕ β) (.ofCases first second) := by
  have named (name : String) (value : Value) :
      readAlternative (record [(name, value)]) = some (name, some value) :=
    congrArg (Option.map fun name => (name, some value)) (literalText?_write name)
  refine @Faithful.mk (α ⊕ β) (.ofCases first second) (fun value => ?_) fun value => ?_
  · cases value with
    | inl value => exact wellSpelled_record (by simp)
    | inr value => exact wellSpelled_record (by simp)
  · cases value with
    | inl value =>
        change (readAlternative (record [(first, write value)])).bind _ = _
        simp [named]
    | inr value =>
        change (readAlternative (record [(second, write value)])).bind _ = _
        simp [named, different]

/-! ### Identities -/

instance : Faithful PublicKey := faithful_viaPartial fun _ => rfl

instance : Faithful Signature where
  wellSpelled signature := Faithful.wellSpelled signature.bytes
  read_write signature := by
    change (read (write signature.bytes)).map Signature.mk = some signature
    rw [Faithful.read_write, Option.map_some]

instance : Faithful Uuid := faithful_viaPartial Uuid.ofText?_toText

instance : Faithful LinearId where
  wellSpelled id := wellSpelled_record (by simp)
  read_write id := read_of_record rfl (by decide) (by simp [readField, readFieldOr])

instance : Faithful NetworkId := faithful_viaPartial fun _ => rfl

instance : Faithful Party where
  wellSpelled party := wellSpelled_record (by simp)
  read_write party := read_of_record rfl (by decide) (by simp [readField])

instance : Faithful BusinessIdentity where
  wellSpelled business := wellSpelled_record (by simp)
  read_write business := read_of_record rfl (by decide) (by simp [readField])

instance : NeverNull BusinessIdentity where
  write_ne_null _ := Value.noConfusion

instance : Faithful MemberIdentity where
  wellSpelled identity := wellSpelled_record (by simp)
  read_write identity := read_of_record rfl (by decide) (by simp [readField, readFieldOr])

instance : Faithful Permission := faithful_ofNames fun permission => by cases permission <;> decide

instance : Faithful Role where
  wellSpelled role := wellSpelled_record (by simp)
  read_write role := read_of_record rfl (by decide) (by simp [readField])

instance : Faithful Timestamp := faithful_viaPartial fun _ => rfl

/-! ### The ledger -/

instance : Faithful TxHash := faithful_viaPartial fun _ => rfl

instance : Faithful ContractId := faithful_viaPartial fun _ => rfl

instance : Faithful MembershipStatus := faithful_ofNames fun status => by cases status <;> decide

instance : Faithful GroupState where
  wellSpelled state := wellSpelled_record (by simp)
  read_write state := read_of_record rfl (by decide) (by simp [readField, readFieldOr])

instance : Faithful MembershipState where
  wellSpelled state := wellSpelled_record (by simp)
  read_write state := read_of_record rfl (by decide) (by simp [readField])

instance : Faithful ContractState :=
  @faithful_viaPartial _ _ (.ofCases "Group" "Membership") (faithful_ofCases (by decide)) _ _
    fun state => by cases state <;> rfl

instance : Faithful TransactionState where
  wellSpelled state := wellSpelled_record (by simp)
  read_write state := read_of_record rfl (by decide) (by simp [readField])

instance : Faithful StateRef where
  wellSpelled reference := wellSpelled_record (by simp)
  read_write reference := read_of_record rfl (by decide) (by simp [readField])

instance : Faithful StateAndRef where
  wellSpelled recorded := wellSpelled_record (by simp)
  read_write recorded := read_of_record rfl (by decide) (by simp [readField])

instance : Faithful GroupCommand := faithful_ofNames fun command => by cases command <;> decide

instance : Faithful MembershipCommand := faithful_ofNames fun command => by cases command <;> decide

instance : Faithful CommandValue :=
  @faithful_viaPartial _ _ (.ofCases "Group" "Membership") (faithful_ofCases (by decide)) _ _
    fun command => by cases command <;> rfl

instance : Faithful Command where
  wellSpelled command := wellSpelled_record (by simp)
  read_write command := read_of_record rfl (by decide) (by simp [readField])

instance : Faithful TransactionSignature where
  wellSpelled signature := wellSpelled_record (by simp)
  read_write signature := read_of_record rfl (by decide) (by simp [readField])

instance : Faithful Transaction where
  wellSpelled tx := wellSpelled_record (by simp)
  read_write tx := read_of_record rfl (by decide) (by simp [readField, readFieldOr])

/-! ### Locks -/

instance : Faithful LockKind := faithful_ofNames fun kind => by cases kind <;> decide

instance : Faithful RequestLock where
  wellSpelled lock := wellSpelled_record (by simp)
  read_write lock := read_of_record rfl (by decide) (by simp [readField])

theorem every_value_is_read_back :
    (∀ tx : Transaction, read? (text tx) = some tx) ∧
    (∀ state : TransactionState, read? (text state) = some state) ∧
    (∀ command : Command, read? (text command) = some command) ∧
    (∀ lock : RequestLock, read? (text lock) = some lock) ∧
    (∀ party : Party, read? (text party) = some party) ∧
    (∀ id : LinearId, read? (text id) = some id) ∧
    (∀ role : Role, read? (text role) = some role) ∧
    (∀ identity : MemberIdentity, read? (text identity) = some identity) ∧
    (∀ signature : Signature, read? (text signature) = some signature) :=
  ⟨read?_text, read?_text, read?_text, read?_text, read?_text, read?_text, read?_text, read?_text,
    read?_text⟩

end Consortium.Json
