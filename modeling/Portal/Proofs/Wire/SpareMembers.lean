import Portal.Proofs.Wire.Records

/-!
# Members that do not matter

A record is read as before once an object has a member more that no field looks at, or one that is
read as if it was not there. It is also read as before once a value in it has changed to one that its
field reads alike.
-/

namespace Portal

namespace Fields

/-- Whatever field has the name reads the value as it takes its absence. -/
def ReadsAsAbsent (key : String) (v : Json) : Fields ρ κ → Prop
  | .done => True
  | .cons field rest =>
    (field.name = key → ∃ a, field.absent = some a ∧ field.wire.decode v = .ok a) ∧
      rest.ReadsAsAbsent key v

/-- Whatever field has the name reads both values alike. -/
def ReadsAlike (key : String) (u v : Json) : Fields ρ κ → Prop
  | .done => True
  | .cons field rest =>
    (field.name = key → field.wire.decode u = field.wire.decode v) ∧ rest.ReadsAlike key u v

/-- There is a field with that number, and it reads both values alike. -/
def ReadsAlikeAt (u v : Json) : Nat → Fields ρ κ → Prop
  | _, .done => False
  | 0, .cons field _ => field.wire.decode u = field.wire.decode v
  | index + 1, .cons _ rest => rest.ReadsAlikeAt u v index

variable {fields : Fields ρ κ} {ms : Members} {key : String} {u v : Json}

/-! ## One member more -/

theorem readsAsAbsent_of_not_mem (h : key ∉ fields.names) (v : Json) :
    fields.ReadsAsAbsent key v := by
  induction fields with
  | done => trivial
  | cons field rest ih =>
    rw [names, List.mem_cons, not_or] at h
    exact ⟨fun hname => absurd hname.symm h.1, ih h.2⟩

theorem checkMember_of_readsAsAbsent (h : fields.ReadsAsAbsent key v) :
    fields.checkMember key v = .ok () := by
  induction fields with
  | done => rfl
  | cons field rest ih =>
    obtain ⟨hfield, hrest⟩ := h
    rw [checkMember]
    split
    · next hname =>
      obtain ⟨a, -, ha⟩ := hfield hname
      rw [ha]
      rfl
    · exact ih hrest

theorem checkMember_of_not_mem (h : key ∉ fields.names) (v : Json) :
    fields.checkMember key v = .ok () :=
  checkMember_of_readsAsAbsent (readsAsAbsent_of_not_mem h v)

theorem checkMembers_cons (p : String × Json) (ms : Members) :
    fields.checkMembers (p :: ms) =
      (fields.checkMember p.1 p.2).bind fun _ => fields.checkMembers ms := rfl

theorem checkMembers_insert (h : fields.ReadsAsAbsent key v)
    (hms : ∀ u, ms.get? key = some u → fields.ReadsAsAbsent key u) :
    fields.checkMembers (ms.insert key v) = fields.checkMembers ms := by
  have hv := checkMember_of_readsAsAbsent h
  induction ms with
  | nil =>
    rw [Members.insert, checkMembers_cons, hv]
    rfl
  | cons p ms ih =>
    rw [Members.insert]
    split
    · next hkey =>
      -- The value takes the place of another that did not matter either.
      have hp := checkMember_of_readsAsAbsent (hms p.2 (by rw [Members.get?_cons, if_pos hkey]))
      rw [checkMembers_cons, checkMembers_cons, hv, ← hkey, hp]
    · next hkey =>
      split
      · rw [checkMembers_cons, hv]
        rfl
      · rw [checkMembers_cons, checkMembers_cons, ih]
        intro u hu
        exact hms u (by rw [Members.get?_cons, if_neg hkey, hu])

theorem ofMembers_insert (h : fields.ReadsAsAbsent key v)
    (hms : ∀ u, ms.get? key = some u → fields.ReadsAsAbsent key u) (make : κ) :
    fields.ofMembers (ms.insert key v) make = fields.ofMembers ms make := by
  induction fields with
  | done => rfl
  | cons field rest ih =>
    obtain ⟨hfield, hrest⟩ := h
    have hfirst : ofMember field ((ms.insert key v).get? field.name) =
        ofMember field (ms.get? field.name) := by
      rw [Members.get?_insert]
      split
      · next hname =>
        obtain ⟨a, habsent, ha⟩ := hfield hname
        cases hget : ms.get? field.name with
        | none => rw [ofMember, ofMember, ha, habsent]
        | some u =>
          obtain ⟨b, habsent', hb⟩ := (hms u (hname ▸ hget)).1 hname
          rw [habsent, Option.some.injEq] at habsent'
          rw [ofMember, ofMember, ha, hb, habsent']
      · rfl
    have hlater := ih hrest fun u hu => (hms u hu).2
    simp only [ofMembers, hfirst, hlater]

section Kinds

variable {name : String} {w : Wire α} {rest : Fields ρ κ}

@[simp] theorem readsAsAbsent_done : (done : Fields ρ ρ).ReadsAsAbsent key v := trivial

@[simp] theorem readsAsAbsent_required {get : ρ → α} :
    (required name w get rest).ReadsAsAbsent key v ↔ name ≠ key ∧ rest.ReadsAsAbsent key v := by
  simp [required, ReadsAsAbsent]

@[simp] theorem readsAsAbsent_optional {get : ρ → Option α} :
    (optional name w get rest).ReadsAsAbsent key .null ↔ rest.ReadsAsAbsent key .null := by
  simp [optional, ReadsAsAbsent, Wire.option]

@[simp] theorem readsAsAbsent_omissible {get : ρ → Option α} :
    (omissible name w get rest).ReadsAsAbsent key .null ↔ rest.ReadsAsAbsent key .null := by
  simp [omissible, ReadsAsAbsent, Wire.option]

@[simp] theorem readsAsAbsent_defaulted {value : α} {get : ρ → α} :
    (defaulted name w value get rest).ReadsAsAbsent key v ↔
      (name = key → w.decode v = .ok value) ∧ rest.ReadsAsAbsent key v := by
  simp [defaulted, ReadsAsAbsent]

end Kinds

/-! ## Another value -/

theorem checkMember_of_readsAlike (h : fields.ReadsAlike key u v) :
    fields.checkMember key u = fields.checkMember key v := by
  induction fields with
  | done => rfl
  | cons field rest ih =>
    obtain ⟨hfield, hrest⟩ := h
    rw [checkMember, checkMember]
    split
    · next hname => rw [hfield hname]
    · exact ih hrest

theorem checkMembers_of_readsAlike (h : fields.ReadsAlike key u v) (before after : Members) :
    fields.checkMembers (before ++ (key, u) :: after) =
      fields.checkMembers (before ++ (key, v) :: after) := by
  induction before with
  | nil =>
    rw [List.nil_append, List.nil_append, checkMembers_cons, checkMembers_cons,
      checkMember_of_readsAlike h]
  | cons p before ih =>
    rw [List.cons_append, List.cons_append, checkMembers_cons, checkMembers_cons, ih]

theorem ofMembers_of_readsAlike (h : fields.ReadsAlike key u v) (before after : Members)
    (make : κ) :
    fields.ofMembers (before ++ (key, u) :: after) make =
      fields.ofMembers (before ++ (key, v) :: after) make := by
  induction fields with
  | done => rfl
  | cons field rest ih =>
    obtain ⟨hfield, hrest⟩ := h
    have hfirst : ofMember field (Members.get? (before ++ (key, u) :: after) field.name) =
        ofMember field (Members.get? (before ++ (key, v) :: after) field.name) := by
      rcases Members.get?_append_cons key field.name before after u v with
        heq | ⟨hname, hu, hv⟩
      · rw [heq]
      · rw [hu, hv]
        exact hfield hname
    simp only [ofMembers, hfirst, ih hrest]

theorem ofItems_of_readsAlikeAt {before : List Json} (h : fields.ReadsAlikeAt u v before.length)
    (record : String) (size index : Nat) (after : List Json) (make : κ) :
    fields.ofItems record size index (before ++ u :: after) make =
      fields.ofItems record size index (before ++ v :: after) make := by
  induction fields generalizing before index with
  | done => cases before <;> cases h
  | cons field rest ih =>
    cases before with
    | nil =>
      have hread : field.wire.decode u = field.wire.decode v := h
      simp only [List.nil_append, ofItems, hread]
    | cons x before =>
      have hrest : rest.ReadsAlikeAt u v before.length := h
      simp only [List.cons_append, ofItems, ih hrest]

end Fields

/-! ## Whole values -/

/-- The values are the same but for one field of a record, in which the one has `u` and the other
`v`. -/
inductive DifferAt (key : String) (index : Nat) (u v : Json) : Json → Json → Prop
  | member (before after : Members) :
      DifferAt key index u v (.object (before ++ (key, u) :: after))
        (.object (before ++ (key, v) :: after))
  | item {before : List Json} (h : before.length = index) (after : List Json) :
      DifferAt key index u v (.array (before ++ u :: after)) (.array (before ++ v :: after))

namespace Wire

variable {fields : Fields ρ κ} {key : String} {u v : Json}

theorem record_decode_insert {ms : Members} (h : fields.ReadsAsAbsent key v)
    (hms : ∀ u, ms.get? key = some u → fields.ReadsAsAbsent key u) (name : String) (make : κ) :
    (record name make fields).decode (.object (ms.insert key v)) =
      (record name make fields).decode (.object ms) := by
  change (fields.checkMembers (ms.insert key v)).bind _ = (fields.checkMembers ms).bind _
  rw [Fields.checkMembers_insert h hms]
  simp only [Fields.ofMembers_insert h hms]

theorem record_decode_of_differAt {index : Nat} {o o' : Json} (h : DifferAt key index u v o o')
    (hkey : fields.ReadsAlike key u v) (hindex : fields.ReadsAlikeAt u v index) (name : String)
    (make : κ) :
    (record name make fields).decode o = (record name make fields).decode o' := by
  cases h with
  | member before after =>
    change (fields.checkMembers (before ++ (key, u) :: after)).bind _ =
      (fields.checkMembers (before ++ (key, v) :: after)).bind _
    rw [Fields.checkMembers_of_readsAlike hkey]
    simp only [Fields.ofMembers_of_readsAlike hkey]
  | @item before hlength after =>
    subst hlength
    simp only [record, Fields.ofItems_of_readsAlikeAt hindex, List.length_append, List.length_cons]

theorem list_decode_of_item {w : Wire α} (h : w.decode u = w.decode v) (before after : List Json) :
    w.list.decode (.array (before ++ u :: after)) =
      w.list.decode (.array (before ++ v :: after)) := by
  change decodeItems w (before ++ u :: after) = decodeItems w (before ++ v :: after)
  induction before with
  | nil => simp only [List.nil_append, decodeItems, h]
  | cons x before ih => simp only [List.cons_append, decodeItems, ih]

end Wire

end Portal
