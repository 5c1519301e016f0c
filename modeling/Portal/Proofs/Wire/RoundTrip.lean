import Portal.Proofs.Time.RoundTrip
import Portal.Proofs.Wire.Records
import Portal.Wire.Record

/-!
# What is written is read again

The law holds of the simple types, and every way to build a type from others keeps it. For a record
it is enough that its fields have it, have different names and make up the whole record.
-/

namespace Portal

/-- Whatever is written is read as what it was. -/
def Wire.RoundTrips (w : Wire α) : Prop :=
  ∀ a, w.decode (w.encode a) = .ok a

/-- `null` is left to stand for nothing. -/
def Wire.NeverNull (w : Wire α) : Prop :=
  ∀ a, w.encode a ≠ .null

namespace Wire

variable {w : Wire α}

/-! ## Simple types -/

@[simp] theorem string_roundTrips : string.RoundTrips := fun _ => rfl

@[simp] theorem bool_roundTrips : bool.RoundTrips := fun _ => rfl

@[simp] theorem real_roundTrips : real.RoundTrips := fun _ => rfl

@[simp] theorem any_roundTrips : any.RoundTrips := fun _ => rfl

@[simp] theorem members_roundTrips : members.RoundTrips := fun _ => rfl

theorem count?_toNat (n : UInt64) : (Json.int n.toNat).count? = some n := by
  have hn : (n.toNat : Int) < 18446744073709551616 := Int.ofNat_lt.mpr n.toNat_lt
  rw [Json.count?, if_pos ⟨Int.natCast_nonneg _, hn⟩, Int.toNat_natCast, UInt64.ofNat_toNat]

theorem count_decode {v : Json} {n : UInt64} (h : v.count? = some n) : count.decode v = .ok n := by
  simp only [count, h]

@[simp] theorem count_roundTrips : count.RoundTrips :=
  fun n => count_decode (count?_toNat n)

theorem time_decode {s : String} {t : Timestamp} (h : Timestamp.parse s = .ok t) :
    time.decode (.string s) = .ok t := by
  simp only [time, h]
  rfl

@[simp] theorem time_roundTrips : time.RoundTrips :=
  fun t => time_decode t.parse_text

@[simp] theorem string_neverNull : string.NeverNull := nofun

@[simp] theorem count_neverNull : count.NeverNull := nofun

@[simp] theorem real_neverNull : real.NeverNull := nofun

@[simp] theorem time_neverNull : time.NeverNull := by
  simp [NeverNull, time]

@[simp] theorem members_neverNull : members.NeverNull := nofun

@[simp] theorem table_neverNull : w.table.NeverNull := nofun

/-! ## Types from others -/

theorem decodeItems_map (h : w.RoundTrips) (as : List α) :
    decodeItems w (as.map w.encode) = .ok as := by
  induction as with
  | nil => rfl
  | cons a as ih =>
    rw [List.map_cons, decodeItems, h a, ih]
    rfl

@[simp] theorem list_roundTrips (h : w.RoundTrips) : w.list.RoundTrips :=
  decodeItems_map h

theorem decodeEntries_map (h : w.RoundTrips) (as : List (String × α)) :
    decodeEntries w (as.map fun (k, a) => (k, w.encode a)) = .ok as := by
  induction as with
  | nil => rfl
  | cons p as ih =>
    rw [List.map_cons, decodeEntries, h p.2, ih]
    rfl

@[simp] theorem table_roundTrips (h : w.RoundTrips) : w.table.RoundTrips :=
  decodeEntries_map h

theorem option_decode {v : Json} (h : v ≠ .null) : w.option.decode v = (w.decode v).map some := by
  cases v with
  | null => exact absurd rfl h
  | _ => rfl

@[simp] theorem option_roundTrips (h : w.RoundTrips) (hnull : w.NeverNull) :
    w.option.RoundTrips := by
  rintro (_ | a)
  · rfl
  · -- What is written for `a` is not taken for nothing.
    calc w.option.decode (w.encode a) = (w.decode (w.encode a)).map some := option_decode (hnull a)
      _ = .ok (some a) := by rw [h a]; rfl

theorem choice_roundTrips {names : List (String × α)} {write : α → String}
    (h : ∀ a, names.lookup (write a) = some a) : (choice names write).RoundTrips := by
  intro a
  change variant names (write a) = .ok a
  rw [variant, h a]

end Wire

/-! ## Records -/

namespace Fields

/-- Every field is read as it is written, and what is not written is what its absence stands for. -/
def RoundTrip : Fields ρ κ → Prop
  | .done => True
  | .cons field rest =>
    field.wire.RoundTrips ∧ (∀ a, field.isWritten a = false → field.absent = some a) ∧
      rest.RoundTrip

section Kinds

variable {name : String} {w : Wire α} {rest : Fields ρ κ}

@[simp] theorem names_done : (done : Fields ρ ρ).names = [] := rfl

@[simp] theorem names_required {get : ρ → α} :
    (required name w get rest).names = name :: rest.names := rfl

@[simp] theorem names_optional {get : ρ → Option α} :
    (optional name w get rest).names = name :: rest.names := rfl

@[simp] theorem names_omissible {get : ρ → Option α} :
    (omissible name w get rest).names = name :: rest.names := rfl

@[simp] theorem names_defaulted {value : α} {get : ρ → α} :
    (defaulted name w value get rest).names = name :: rest.names := rfl

@[simp] theorem done_roundTrip : (done : Fields ρ ρ).RoundTrip := trivial

@[simp] theorem required_roundTrip {get : ρ → α} :
    (required name w get rest).RoundTrip ↔ w.RoundTrips ∧ rest.RoundTrip := by
  simp [required, RoundTrip]

@[simp] theorem optional_roundTrip {get : ρ → Option α} :
    (optional name w get rest).RoundTrip ↔ w.option.RoundTrips ∧ rest.RoundTrip := by
  simp [optional, RoundTrip]

@[simp] theorem omissible_roundTrip {get : ρ → Option α} :
    (omissible name w get rest).RoundTrip ↔ w.option.RoundTrips ∧ rest.RoundTrip := by
  simp [omissible, RoundTrip]

@[simp] theorem defaulted_roundTrip {value : α} {get : ρ → α} :
    (defaulted name w value get rest).RoundTrip ↔ w.RoundTrips ∧ rest.RoundTrip := by
  simp [defaulted, RoundTrip]

end Kinds

/-- What is made of the fields of `r`. -/
def rebuilt (r : ρ) : Fields ρ κ → κ → ρ
  | .done, s => s
  | .cons field rest, make => rest.rebuilt r (make (field.get r))

variable {fields : Fields ρ κ} {field : Field ρ α} {rest : Fields ρ κ} {r : ρ}

/-! ### What is written -/

theorem toMembers_cons :
    (cons field rest).toMembers r =
      if field.isWritten (field.get r) then
        (field.name, field.wire.encode (field.get r)) :: rest.toMembers r
      else rest.toMembers r :=
  rfl

theorem keys_sublist_names : ((fields.toMembers r).map (·.1)).Sublist fields.names := by
  induction fields with
  | done => exact List.Sublist.slnil
  | cons field rest ih =>
    rw [toMembers_cons, names]
    split
    · exact ih.cons_cons _
    · exact ih.cons _

theorem mem_names_of_mem_toMembers {p : String × Json} (h : p ∈ fields.toMembers r) :
    p.1 ∈ fields.names :=
  keys_sublist_names.subset (List.mem_map_of_mem h)

theorem get?_toMembers_self (hn : field.name ∉ rest.names) :
    Members.get? ((cons field rest).toMembers r) field.name =
      if field.isWritten (field.get r) then some (field.wire.encode (field.get r)) else none := by
  rw [toMembers_cons]
  split
  · rw [Members.get?_cons, if_pos rfl]
  · exact Members.get?_eq_none _ _ fun h => hn (keys_sublist_names.subset h)

theorem get?_toMembers_of_ne {k : String} (hk : k ≠ field.name) :
    Members.get? ((cons field rest).toMembers r) k = Members.get? (rest.toMembers r) k := by
  rw [toMembers_cons]
  split
  · rw [Members.get?_cons, if_neg hk]
  · rfl

/-! ### What is read -/

theorem ofMember_written {a : α} (h : field.wire.RoundTrips)
    (ha : field.isWritten a = false → field.absent = some a) :
    ofMember field (if field.isWritten a then some (field.wire.encode a) else none) = .ok a := by
  split
  · exact h a
  · next hw => rw [ofMember, ha (Bool.eq_false_iff.mpr hw)]

theorem ofMembers_of_agree {ms : Members} (hf : fields.RoundTrip) (hn : fields.names.Nodup)
    (h : ∀ k ∈ fields.names, ms.get? k = Members.get? (fields.toMembers r) k) (make : κ) :
    fields.ofMembers ms make = .ok (fields.rebuilt r make) := by
  induction fields with
  | done => rfl
  | cons field rest ih =>
    obtain ⟨hname, hn⟩ := List.nodup_cons.mp hn
    obtain ⟨hw, ha, hf⟩ := hf
    -- No later field has this name, so what is found under it was written for this field.
    have hfirst := h field.name List.mem_cons_self
    rw [get?_toMembers_self hname] at hfirst
    have hrest : ∀ k ∈ rest.names, ms.get? k = Members.get? (rest.toMembers r) k := by
      intro k hk
      rw [h k (List.mem_cons_of_mem _ hk), get?_toMembers_of_ne (ne_of_mem_of_not_mem hk hname)]
    rw [ofMembers, hfirst, ofMember_written hw (ha _)]
    exact ih hf hn hrest _

theorem checkMember_of_mem {p : String × Json} (hf : fields.RoundTrip) (hn : fields.names.Nodup)
    (h : p ∈ fields.toMembers r) : fields.checkMember p.1 p.2 = .ok () := by
  induction fields with
  | done => rfl
  | cons field rest ih =>
    obtain ⟨hname, hn⟩ := List.nodup_cons.mp hn
    obtain ⟨hw, -, hf⟩ := hf
    have hrest (h : p ∈ rest.toMembers r) : (cons field rest).checkMember p.1 p.2 = .ok () := by
      have hne : field.name ≠ p.1 := (ne_of_mem_of_not_mem (mem_names_of_mem_toMembers h) hname).symm
      rw [checkMember, if_neg hne, ih hf hn h]
    rw [toMembers_cons] at h
    split at h
    · rcases List.mem_cons.mp h with rfl | h
      · rw [checkMember, if_pos rfl, hw]
        rfl
      · exact hrest h
    · exact hrest h

end Fields

theorem Wire.record_roundTrips {name : String} {make : κ} {fields : Fields ρ κ}
    (hf : fields.RoundTrip) (hn : fields.names.Nodup) (hmake : ∀ r, fields.rebuilt r make = r) :
    (Wire.record name make fields).RoundTrips := by
  intro r
  have hkeys : ((fields.toMembers r).map (·.1)).Nodup := hn.sublist Fields.keys_sublist_names
  have hcheck : fields.checkMembers (Members.ofList (fields.toMembers r)) = .ok () :=
    Fields.checkMembers_of_forall fun p hp =>
      Fields.checkMember_of_mem hf hn (Members.mem_ofList hp)
  have hread : fields.ofMembers (Members.ofList (fields.toMembers r)) make = .ok r := by
    rw [Fields.ofMembers_of_agree hf hn fun k _ => Members.get?_ofList k hkeys, hmake]
  change (do
    fields.checkMembers (Members.ofList (fields.toMembers r))
    fields.ofMembers (Members.ofList (fields.toMembers r)) make) = Except.ok r
  rw [hcheck, hread]
  rfl

end Portal
