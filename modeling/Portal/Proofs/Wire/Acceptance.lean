import Portal.Proofs.Success
import Portal.Proofs.Wire.Records
import Portal.Proofs.Wire.SpareMembers

/-!
# Which objects are records

An object is read as a record just when each of its members can be read, if it is a field, and none
of the fields that have to be there is missing.
-/

namespace Portal

namespace Fields

variable {fields : Fields ρ κ} {ms : Members}

theorem forall_of_checkMembers (h : fields.checkMembers ms = .ok ()) :
    ∀ p ∈ ms, fields.checkMember p.1 p.2 = .ok () := by
  induction ms with
  | nil => nofun
  | cons p ms ih =>
    obtain ⟨_, hp, hms⟩ := exists_of_bind_eq_ok h
    exact List.forall_mem_cons.mpr ⟨hp, ih hms⟩

theorem exists_ofMember {field : Field ρ α} {rest : Fields ρ κ}
    (hcheck : ∀ p ∈ ms, (cons field rest).checkMember p.1 p.2 = .ok ())
    (hkeys : ∀ key ∈ (cons field rest).requiredNames, ∃ v, ms.get? key = some v) :
    ∃ a, ofMember field (ms.get? field.name) = .ok a := by
  cases hget : ms.get? field.name with
  | some v =>
    have hread := hcheck _ (Members.mem_of_get? _ _ hget)
    rw [checkMember, if_pos rfl] at hread
    obtain ⟨a, ha, -⟩ := exists_of_map_eq_ok hread
    exact ⟨a, ha⟩
  | none =>
    cases habsent : field.absent with
    | some a => exact ⟨a, by rw [ofMember, habsent]⟩
    | none =>
      obtain ⟨v, hv⟩ := hkeys field.name (by simp [requiredNames, habsent])
      rw [hget] at hv
      cases hv

theorem exists_ofMembers (hn : fields.names.Nodup)
    (hcheck : ∀ p ∈ ms, fields.checkMember p.1 p.2 = .ok ())
    (hkeys : ∀ key ∈ fields.requiredNames, ∃ v, ms.get? key = some v) (make : κ) :
    ∃ r, fields.ofMembers ms make = .ok r := by
  induction fields with
  | done => exact ⟨make, rfl⟩
  | cons field rest ih =>
    obtain ⟨a, ha⟩ := exists_ofMember hcheck hkeys
    obtain ⟨hname, hn⟩ := List.nodup_cons.mp hn
    have hrest : ∀ p ∈ ms, rest.checkMember p.1 p.2 = .ok () := by
      intro p hp
      by_cases hkey : field.name = p.1
      · exact checkMember_of_not_mem (hkey ▸ hname) p.2
      · have hread := hcheck p hp
        rwa [checkMember, if_neg hkey] at hread
    have hlater : ∀ key ∈ rest.requiredNames, ∃ v, ms.get? key = some v := by
      intro key hkey
      refine hkeys key ?_
      rw [requiredNames]
      split
      · exact List.mem_cons_of_mem _ hkey
      · exact hkey
    rw [ofMembers, ha]
    exact ih hn hrest hlater (make a)

end Fields

theorem Wire.exists_record_decode_iff {fields : Fields ρ κ} {ms : Members} (hn : fields.names.Nodup)
    (name : String) (make : κ) :
    (∃ r, (Wire.record name make fields).decode (.object ms) = .ok r) ↔
      (∀ p ∈ ms, fields.checkMember p.1 p.2 = .ok ()) ∧
        ∀ key ∈ fields.requiredNames, ∃ v, ms.get? key = some v := by
  constructor
  · rintro ⟨r, h⟩
    obtain ⟨_, hcheck, hread⟩ := exists_of_bind_eq_ok h
    refine ⟨Fields.forall_of_checkMembers hcheck, ?_⟩
    intro key hkey
    cases hget : ms.get? key with
    | some v => exact ⟨v, rfl⟩
    | none =>
      obtain ⟨fault, hfault⟩ := Fields.ofMembers_of_missing hkey hget make
      rw [hfault] at hread
      cases hread
  · rintro ⟨hcheck, hkeys⟩
    obtain ⟨r, hr⟩ := Fields.exists_ofMembers hn hcheck hkeys make
    refine ⟨r, ?_⟩
    change (fields.checkMembers ms).bind (fun _ => fields.ofMembers ms make) = .ok r
    rw [Fields.checkMembers_of_forall hcheck]
    exact hr

end Portal
