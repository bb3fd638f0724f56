import BilingualLessons.Proofs.Json.Keys
import BilingualLessons.Proofs.Outcome
import BilingualLessons.Record.Shape

namespace BilingualLessons.Record

/-!
# Records read back

An object that holds what the slots of a shape ask for is read as it stands.  What a record is
written as is such an object, so that reading it back is a matter of its single fields.

* `RoundTrips` — what a value decodes to is written as a value that decodes to the same.
* `Decoder.Gives` — what is true of all that a decoder gives.
* `list_encode`, `nullable_ofOption`, `natBelow_ofNat` — values with parts and numbers, from their
  parts and bounds.
* `Shape.Holds` — fields that are a record of a shape.
* `Shape.read_of_holds`, `Shape.fromFields_of_holds` — such fields are read as they stand, and
  fields that have others among them as these alone.
-/

variable {α β : Type}

/-- Whatever decodes is written as a value that decodes to the same. -/
def RoundTrips (decode : Decoder α) (encode : α → Json) : Prop :=
  ∀ v x, decode v = .ok x → decode (encode x) = .ok x

/-- Whatever the decoder gives has the property. -/
def Decoder.Gives (decode : Decoder α) (p : α → Prop) : Prop :=
  ∀ v x, decode v = .ok x → p x

/-- A decoder that only gives what it can read back from its record. -/
theorem Decoder.Gives.roundTrips {decode : Decoder α} {encode : α → Json} {p : α → Prop}
    (h : decode.Gives p) (hback : ∀ x, p x → decode (encode x) = .ok x) :
    RoundTrips decode encode :=
  fun v x hx => hback x (h v x hx)

/-! ### Single values -/

section

variable {decode : Decoder α} {encode : α → Json} {bound n : Nat} {expected : Expected}

@[simp] theorem text_string (s : String) : text (.string s) = .ok s := rfl

@[simp] theorem boolean_bool (b : Bool) : boolean (.bool b) = .ok b := rfl

@[simp] theorem map_object (fields : Fields) : map (.object fields) = .ok fields := rfl

/-- A number within the bound is read as it was written. -/
theorem natBelow_ofNat (h : n < bound) : natBelow bound expected (.ofNat n) = .ok n := by
  have hrange : (0 : Int) ≤ n ∧ (n : Int) < bound := by omega
  rw [Json.ofNat, natBelow, if_pos hrange, Int.toNat_natCast]

/-- No other number is read. -/
theorem natBelow_gives : (natBelow bound expected).Gives (· < bound) := by
  intro v n h
  unfold natBelow at h
  split at h
  · split at h
    · next hrange =>
      cases h
      show Int.toNat _ < bound
      omega
    · cases h
  · cases h

/-- The elements are read one by one, each as it was written. -/
theorem mapM_encode {xs : List α} (h : ∀ x ∈ xs, decode (encode x) = .ok x) :
    (xs.map encode).mapM decode = .ok xs := by
  induction xs with
  | nil => rfl
  | cons x xs ih =>
    rw [List.forall_mem_cons] at h
    rw [List.map_cons, List.mapM_cons, h.1, ih h.2]
    rfl

/-- An array is read as it was written if its elements are. -/
@[simp] theorem list_encode {xs : List α} (h : ∀ x ∈ xs, decode (encode x) = .ok x) :
    list decode (.array (xs.map encode)) = .ok xs :=
  mapM_encode h

@[simp] theorem list_ofStrings (texts : List String) :
    list text (.ofStrings texts) = .ok texts :=
  list_encode fun _ _ => rfl

/-- Whatever is true of what elements decode to is true of every element of a decoded array. -/
theorem Decoder.Gives.list {p : α → Prop} (h : decode.Gives p) :
    Decoder.Gives (Record.list decode) fun xs => ∀ x ∈ xs, p x := by
  have hitems : ∀ (items : List Json) (xs : List α), items.mapM decode = .ok xs →
      ∀ x ∈ xs, p x := by
    intro items
    induction items with
    | nil =>
      intro xs hxs
      cases hxs
      simp
    | cons item items ih =>
      intro xs hxs
      rw [List.mapM_cons] at hxs
      -- the first element that fails would end it, so every one of them has decoded
      obtain ⟨x, hx, hxs⟩ := bind_eq_ok_iff.mp hxs
      obtain ⟨rest, hrest, hxs⟩ := bind_eq_ok_iff.mp hxs
      cases hxs
      exact List.forall_mem_cons.mpr ⟨h item x hx, ih rest hrest⟩
  intro v xs hxs
  unfold Record.list at hxs
  split at hxs
  · exact hitems _ _ hxs
  · cases hxs

/-- Any value but `null` is taken for what it is. -/
theorem nullable_of_ne_null {v : Json} (h : v ≠ .null) :
    nullable decode v = (decode v).map some := by
  cases v with
  | null => exact absurd rfl h
  | _ => rfl

/-- `null` in place of an absent value is read as absence, and a value as it was written, which
    must not be as `null`. -/
@[simp] theorem nullable_ofOption {o : Option α} (h : ∀ x ∈ o, decode (encode x) = .ok x)
    (hnull : ∀ x, encode x ≠ .null) : nullable decode (.ofOption encode o) = .ok o := by
  cases o with
  | none => rfl
  | some x =>
    rw [Json.ofOption, nullable_of_ne_null (hnull x), h x rfl]
    rfl

@[simp] theorem nullable_text (o : Option String) :
    nullable text (.ofOption .string o) = .ok o :=
  nullable_ofOption (fun _ _ => rfl) nofun

@[simp] theorem nullable_boolean (o : Option Bool) :
    nullable boolean (.ofOption .bool o) = .ok o :=
  nullable_ofOption (fun _ _ => rfl) nofun

theorem nullable_natBelow {o : Option Nat} (h : ∀ n ∈ o, n < bound) :
    nullable (natBelow bound expected) (.ofOption .ofNat o) = .ok o :=
  nullable_ofOption (fun n hn => natBelow_ofNat (h n hn)) nofun

theorem Decoder.Gives.nullable {p : α → Prop} (h : decode.Gives p) :
    Decoder.Gives (Record.nullable decode) fun o => ∀ x ∈ o, p x := by
  intro v o ho
  by_cases hv : v = .null
  · subst hv
    cases ho
    simp
  · rw [nullable_of_ne_null hv] at ho
    cases hx : decode v with
    | error misfit =>
      rw [hx] at ho
      cases ho
    | ok x =>
      rw [hx] at ho
      cases ho
      simpa using h v x hx

/-- An absent value that may be anything is never `null`. -/
theorem nullable_anything_gives : (nullable anything).Gives (· ≠ some .null) := by
  intro v o ho
  by_cases hv : v = .null
  · subst hv
    cases ho
    simp
  · rw [nullable_of_ne_null hv] at ho
    cases ho
    simpa using hv

end

/-! ### Taking the values -/

section

variable {found found' : Values} {key name : String} {v : Json} {rest : Fields} {decode : Decoder α}
  {p : α → Prop} {x default : α}

attribute [simp] Values.optional

@[simp] theorem required_cons :
    Values.required ((key, v) :: rest) name decode
      = if key = name then decode v else Values.required rest name decode := by
  by_cases h : key = name <;> simp [Values.required, Fields.get?_cons, h]

@[simp] theorem defaulted_nil : Values.defaulted [] name decode default = .ok default := rfl

@[simp] theorem defaulted_cons :
    Values.defaulted ((key, v) :: rest) name decode default
      = if key = name then decode v else Values.defaulted rest name decode default := by
  by_cases h : key = name <;> simp [Values.defaulted, Fields.get?_cons, h]

/-- The order in which values were found does not matter. -/
theorem required_of_perm (hperm : found.Perm found') (honce : (found.map (·.1)).Nodup) :
    found.required name decode = found'.required name decode := by
  rw [Values.required, Values.required, Fields.get?_of_perm hperm honce]

theorem defaulted_of_perm (hperm : found.Perm found') (honce : (found.map (·.1)).Nodup) :
    found.defaulted name decode default = found'.defaulted name decode default := by
  rw [Values.defaulted, Values.defaulted, Fields.get?_of_perm hperm honce]

theorem Decoder.Gives.required (h : decode.Gives p) (hx : found.required name decode = .ok x) :
    p x := by
  unfold Values.required at hx
  split at hx
  · exact h _ _ hx
  · cases hx

theorem Decoder.Gives.defaulted (h : decode.Gives p) (hdefault : p default)
    (hx : found.defaulted name decode default = .ok x) : p x := by
  unfold Values.defaulted at hx
  split at hx
  · exact h _ _ hx
  · cases hx
    exact hdefault

theorem Decoder.Gives.optional {o : Option α} (h : decode.Gives p)
    (ho : found.optional name decode = .ok o) : ∀ x ∈ o, p x :=
  Decoder.Gives.defaulted h.nullable (by simp) ho

end

/-! ### Slots -/

attribute [simp] Slot.required Slot.defaulted Slot.optional Slot.optionalInObject Slot.orNamed

/-- Nothing is wrong with a value that decodes. -/
@[simp] theorem misfitOf_eq_none_iff {decode : Decoder α} {v : Json} :
    misfitOf decode v = none ↔ ∃ x, decode v = .ok x := by
  unfold misfitOf
  cases decode v <;> simp

/-- The keys by which an object may name a field. -/
def Slot.keys (slot : Slot) : List String := slot.name :: slot.alias?.toList

/-- The keys by which an object may name the fields of a record. -/
def Shape.keys (shape : Shape) : List String := shape.slots.flatMap Slot.keys

/-- Whether a key names a field of the record. -/
def Shape.knows (shape : Shape) (key : String) : Bool :=
  shape.slots.any (·.isNamed key)

theorem isNamed_iff {slot : Slot} {key : String} :
    slot.isNamed key = true ↔ key ∈ slot.keys := by
  rw [Slot.isNamed, Slot.keys, Bool.or_eq_true, List.mem_cons, Option.mem_toList, beq_iff_eq,
    beq_iff_eq]
  exact or_congr_left eq_comm

/-- Where no key is used twice, the name of a slot leads to that slot. -/
theorem find?_isNamed {slots : List Slot} (hkeys : (slots.flatMap Slot.keys).Nodup) {slot : Slot}
    (hslot : slot ∈ slots) : slots.find? (·.isNamed slot.name) = some slot := by
  have hname : slot.name ∈ slot.keys := List.mem_cons_self
  induction slots with
  | nil => cases hslot
  | cons first rest ih =>
    rw [List.flatMap_cons, List.nodup_append'] at hkeys
    obtain ⟨-, hrest, hapart⟩ := hkeys
    rcases List.mem_cons.mp hslot with rfl | hslot
    · rw [List.find?_cons, isNamed_iff.mpr hname]
    · have hfirst : first.isNamed slot.name = false := by
        rw [← Bool.not_eq_true, isNamed_iff]
        exact fun hmem => hapart hmem (List.mem_flatMap.mpr ⟨slot, hslot, hname⟩)
      rw [List.find?_cons, hfirst]
      exact ih hrest hslot

/-! ### Records as objects -/

/-- The fields are a record of the shape: each is named as its slot is and fits, none comes twice,
    and none is absent that must not be. -/
structure Shape.Holds (shape : Shape) (fields : Fields) : Prop where
  fits : ∀ field ∈ fields, ∃ slot ∈ shape.slots, slot.name = field.1 ∧ slot.misfit? field.2 = none
  once : (fields.map (·.1)).Nodup
  complete : ∀ slot ∈ shape.slots, slot.absence = .never → slot.name ∈ fields.map (·.1)

/-- It does not matter in which order the fields come. -/
theorem Shape.Holds.perm {shape : Shape} {fields fields' : Fields} (h : shape.Holds fields)
    (hperm : fields.Perm fields') : shape.Holds fields' where
  fits field hfield := h.fits field (hperm.mem_iff.mpr hfield)
  once := (hperm.map _).nodup_iff.mp h.once
  complete slot hslot hnever := (hperm.map _).mem_iff.mp (h.complete slot hslot hnever)

/-- An object is read field by field; what the slots know is kept, in the order of the keys. -/
theorem Shape.visit_eq {shape : Shape} (hkeys : shape.keys.Nodup) {found : Values}
    {fields : Fields}
    (hfits : ∀ field ∈ fields, shape.knows field.1 = true →
      ∃ slot ∈ shape.slots, slot.name = field.1 ∧ slot.misfit? field.2 = none)
    (honce : ((found ++ fields.filter fun field => shape.knows field.1).map (·.1)).Nodup) :
    visit shape.slots found fields
      = .ok (found ++ fields.filter fun field => shape.knows field.1) := by
  induction fields generalizing found with
  | nil => simp [visit]
  | cons field rest ih =>
    obtain ⟨key, v⟩ := field
    rw [List.forall_mem_cons] at hfits
    obtain ⟨hfirst, hfits⟩ := hfits
    rw [List.filter_cons] at honce ⊢
    cases hknown : shape.knows key with
    | false =>
      have hnone : shape.slots.find? (·.isNamed key) = none := by
        simpa [List.find?_eq_none, knows] using hknown
      -- the field is passed over, and what is found does not change
      simp only [hknown, Bool.false_eq_true, if_false] at honce ⊢
      rw [visit, hnone]
      exact ih hfits honce
    | true =>
      obtain ⟨slot, hslot, rfl, hfit⟩ := hfirst hknown
      simp only [hknown, if_true] at honce ⊢
      -- the key is new: what is found in the end has it once, and has it here
      have hnew : Fields.contains slot.name found = false := by
        have hkey : slot.name ∉ found.map (·.1) := by
          rw [List.map_append, List.nodup_append'] at honce
          exact fun hmem => honce.2.2 hmem (by simp)
        rw [Fields.contains, Fields.get?_eq_none_iff.mpr hkey]
        rfl
      rw [List.append_cons] at honce ⊢
      rw [visit, find?_isNamed hkeys hslot]
      simp only [hnew, hfit]
      exact ih hfits honce

variable {shape : Shape} {fields : Fields}

/-- **Objects.** Fields that hold a record, with or without others among them, are read as those
    of the record. -/
theorem Shape.fromFields_of_holds (hkeys : shape.keys.Nodup)
    (h : shape.Holds (fields.filter fun field => shape.knows field.1)) :
    shape.fromFields fields = .ok (fields.filter fun field => shape.knows field.1) := by
  -- fields of other names are passed over
  have hvisit : visit shape.slots [] fields
      = .ok (fields.filter fun field => shape.knows field.1) := by
    refine visit_eq hkeys (fun field hfield hknown => ?_) h.once
    exact h.fits field (List.mem_filter.mpr ⟨hfield, hknown⟩)
  -- nothing else could be wrong but a field that is not there
  have hmissing : missing? shape.slots (fields.filter fun field => shape.knows field.1)
      = none := by
    rw [missing?, Option.map_eq_none_iff, List.find?_eq_none]
    intro slot hslot habsent
    obtain ⟨hnever, hnone⟩ : slot.absence = .never ∧
        Fields.get? slot.name (fields.filter fun field => shape.knows field.1) = none := by
      simpa [Fields.contains] using habsent
    exact Fields.get?_eq_none_iff.mp hnone (h.complete slot hslot hnever)
  rw [fromFields, hvisit]
  simp only [ok_bind, hmissing, pure_eq_ok]

/-- **Records.** Fields that are a record are read as they stand. -/
theorem Shape.read_of_holds (hkeys : shape.keys.Nodup) (h : shape.Holds fields) :
    shape.read (.object fields) = .ok fields := by
  -- all fields are known, each by the name of its slot
  have hall : (fields.filter fun field => shape.knows field.1) = fields := by
    refine List.filter_eq_self.mpr fun field hfield => ?_
    obtain ⟨slot, hslot, hname, -⟩ := h.fits field hfield
    refine List.any_eq_true.mpr ⟨slot, hslot, isNamed_iff.mpr ?_⟩
    rw [Slot.keys, hname]
    exact List.mem_cons_self
  have hread : shape.fromFields fields = .ok (fields.filter fun field => shape.knows field.1) :=
    fromFields_of_holds hkeys (by rwa [hall])
  rwa [hall] at hread

end BilingualLessons.Record
