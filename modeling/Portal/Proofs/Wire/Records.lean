import Portal.Proofs.Json.Members
import Portal.Wire.Record

/-!
# Reading records

Which members are looked at, and what is never read: a type made of parts from a text, and a record
from an object that lacks one of the fields it requires.
-/

namespace Portal

/-! ## Looking at members -/

namespace Fields

theorem checkMembers_of_forall {fields : Fields ρ κ} {ms : Members}
    (h : ∀ p ∈ ms, fields.checkMember p.1 p.2 = .ok ()) : fields.checkMembers ms = .ok () := by
  induction ms with
  | nil => rfl
  | cons p ms ih =>
    obtain ⟨hp, hms⟩ := List.forall_mem_cons.mp h
    rw [checkMembers, hp]
    exact ih hms

theorem checkMembers_of_others {fields : Fields ρ κ} {ms : Members} {key : String} {v : Json}
    (hkeys : (ms.map (·.1)).Nodup) (hkey : ms.get? key = some v)
    (hothers : ∀ p ∈ ms, p.1 ≠ key → fields.checkMember p.1 p.2 = .ok ()) :
    fields.checkMembers ms = fields.checkMember key v := by
  induction ms with
  | nil => cases hkey
  | cons p ms ih =>
    obtain ⟨hp, hkeys⟩ := List.nodup_cons.mp hkeys
    obtain ⟨hfirst, hrest⟩ := List.forall_mem_cons.mp hothers
    rw [checkMembers]
    rw [Members.get?_cons] at hkey
    split at hkey
    · next heq =>
      obtain rfl : p.2 = v := Option.some.inj hkey
      have hlater : fields.checkMembers ms = .ok () :=
        checkMembers_of_forall fun q hq =>
          hrest q hq (heq ▸ ne_of_mem_of_not_mem (List.mem_map_of_mem hq) hp)
      rw [hlater, heq]
      cases fields.checkMember p.1 p.2 <;> rfl
    · next hne =>
      rw [hfirst (Ne.symm hne)]
      exact ih hkeys hkey hrest

end Fields

/-! ## Two fields -/

/-- The two fields, as an object, which may have other members, or as an array. -/
inductive IsPair (k l : String) (first second : Json) : Json → Prop
  | object {ms : Members} (hms : ms.IsOrdered) (hfirst : ms.get? k = some first)
      (hsecond : ms.get? l = some second) : IsPair k l first second (.object ms)
  | array : IsPair k l first second (.array [first, second])

theorem Wire.record_decode_pair {make : α → β → ρ} {k l : String} {w : Wire α} {x : Wire β}
    {get : ρ → α} {get' : ρ → β} {first second v : Json} {a : α} (hne : k ≠ l)
    (hfirst : w.decode first = .ok a) (h : IsPair k l first second v) (name : String) :
    (Wire.record name make (.required k w get (.required l x get' .done))).decode v =
      (x.decode second).map (make a) := by
  cases h with
  | @object ms hms hk hl =>
    have hcheck : (Fields.required k w get (.required l x get' .done)).checkMembers ms =
        (x.decode second).map fun _ => () := by
      rw [Fields.checkMembers_of_others hms.nodup_keys hl]
      · simp [Fields.checkMember, Fields.required, hne]
      · rintro ⟨key, u⟩ hp hkey
        have hu := Members.get?_of_mem _ hms.nodup_keys hp
        simp only [Fields.checkMember, Fields.required, if_neg hkey.symm]
        split
        · next heq =>
          subst heq
          rw [hk] at hu
          cases hu
          rw [hfirst]
          rfl
        · rfl
    change (Fields.checkMembers _ ms).bind (fun _ => Fields.ofMembers ms _ make) = _
    rw [hcheck]
    simp only [Fields.required, Fields.ofMembers, hk, hl, Fields.ofMember, hfirst]
    cases x.decode second <;> rfl
  | array =>
    change (Fields.ofItems name 2 0 [first, second] _ make).bind _ = _
    simp only [Fields.required, Fields.ofItems, hfirst]
    cases x.decode second <;> rfl

/-! ## Texts -/

/-- No text is read, whatever it says. -/
def Wire.RefusesText (w : Wire α) : Prop :=
  ∀ s, ∃ fault, w.decode (.string s) = .error fault

theorem Wire.members_refusesText : Wire.members.RefusesText :=
  fun s => ⟨.wrongType (.string s) "a map", rfl⟩

theorem Wire.list_refusesText (w : Wire α) : w.list.RefusesText :=
  fun s => ⟨.wrongType (.string s) "a sequence", rfl⟩

theorem Wire.record_refusesText (name : String) (make : κ) (fields : Fields ρ κ) :
    (Wire.record name make fields).RefusesText :=
  fun s => ⟨.wrongType (.string s) s!"struct {name}", rfl⟩

/-! ## Objects without a field -/

namespace Fields

/-- The names of the fields that have to be there. -/
def requiredNames : Fields ρ κ → List String
  | .done => []
  | .cons field rest =>
    if field.absent.isNone then field.name :: rest.requiredNames else rest.requiredNames

section Kinds

variable {name : String} {w : Wire α} {rest : Fields ρ κ}

@[simp] theorem requiredNames_done : (done : Fields ρ ρ).requiredNames = [] := rfl

@[simp] theorem requiredNames_required {get : ρ → α} :
    (required name w get rest).requiredNames = name :: rest.requiredNames := rfl

@[simp] theorem requiredNames_optional {get : ρ → Option α} :
    (optional name w get rest).requiredNames = rest.requiredNames := rfl

@[simp] theorem requiredNames_omissible {get : ρ → Option α} :
    (omissible name w get rest).requiredNames = rest.requiredNames := rfl

@[simp] theorem requiredNames_defaulted {value : α} {get : ρ → α} :
    (defaulted name w value get rest).requiredNames = rest.requiredNames := rfl

end Kinds

theorem ofMembers_of_missing {fields : Fields ρ κ} {ms : Members} {key : String}
    (hkey : key ∈ fields.requiredNames) (hms : ms.get? key = none) (make : κ) :
    ∃ fault, fields.ofMembers ms make = .error fault := by
  induction fields with
  | done => cases hkey
  | cons field rest ih =>
    rw [ofMembers]
    cases hfield : ofMember field (ms.get? field.name) with
    | error fault => exact ⟨fault, rfl⟩
    | ok a =>
      -- This field was found or may be missing, so it is not the one that is looked for.
      have hrest : key ∈ rest.requiredNames := by
        rw [requiredNames] at hkey
        split at hkey
        · next habsent =>
          rcases List.mem_cons.mp hkey with rfl | hrest
          · rw [hms, ofMember, Option.isNone_iff_eq_none.mp habsent] at hfield
            cases hfield
          · exact hrest
        · exact hkey
      exact ih hrest (make a)

end Fields

theorem Wire.record_of_missing {fields : Fields ρ κ} {ms : Members} {key : String}
    (hkey : key ∈ fields.requiredNames) (hms : ms.get? key = none) (name : String) (make : κ) :
    ∃ fault, (Wire.record name make fields).decode (.object ms) = .error fault := by
  obtain ⟨fault, hfault⟩ := Fields.ofMembers_of_missing hkey hms make
  change ∃ fault, (fields.checkMembers ms).bind (fun _ => fields.ofMembers ms make) = .error fault
  cases fields.checkMembers ms with
  | error fault => exact ⟨fault, rfl⟩
  | ok _ => exact ⟨fault, hfault⟩

end Portal
