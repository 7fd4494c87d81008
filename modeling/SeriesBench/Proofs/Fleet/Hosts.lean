import Mathlib.Data.List.Nodup
import SeriesBench.Fleet.Host
import SeriesBench.Proofs.Random.Draws
import SeriesBench.Proofs.Series.IdText
import SeriesBench.Proofs.StringMap

set_option autoImplicit false

namespace SeriesBench
open SeriesBench.Random SeriesBench.Text

/-- A text without the separators of ids. -/
def Plain (s : String) : Prop := ',' ∉ s.toList ∧ '=' ∉ s.toList ∧ '#' ∉ s.toList

instance (s : String) : Decidable (Plain s) := by unfold Plain; infer_instance

theorem toList_toString (n : Nat) : (toString n).toList = digits n :=
  String.toList_ofList

theorem plain_toString (n : Nat) : Plain (toString n) := by
  have notDigit {c : Char} (hc : c.isDigit = false) : c ∉ (toString n).toList := by
    rw [toList_toString]
    intro h
    rw [isDigit_of_mem_digits h] at hc
    exact absurd hc (by simp)
  exact ⟨notDigit rfl, notDigit rfl, notDigit rfl⟩

namespace Host

theorem plain_hostname (id : Nat) : Plain (hostname id) := by
  have hfront : Plain "host_" := by decide
  obtain ⟨hcomma, hequals, hhash⟩ := plain_toString id
  simp only [Plain, hostname, String.toList_append, List.mem_append, not_or] at hfront ⊢
  exact ⟨⟨hfront.1, hcomma⟩, ⟨hfront.2.1, hequals⟩, hfront.2.2, hhash⟩

theorem hostname_injective {a b : Nat} (h : hostname a = hostname b) : a = b := by
  have hchars : "host_".toList ++ digits a = "host_".toList ++ digits b := by
    rw [← toList_toString, ← toList_toString, ← String.toList_append, ← String.toList_append]
    exact congrArg String.toList h
  exact digits_injective (List.append_cancel_left hchars)

structure Drawn (id : Nat) (h : Host) : Prop where
  name_eq : h.name = hostname id
  plain : ∀ t ∈ h.tags, Plain t.2

theorem draw_always (id : Nat) : Always (draw id) (Drawn id) := by
  have choice {items : Array String} (hitems : ∀ s ∈ items, Plain s) (width : Width) :
      Always (pick width items) Plain := by
    refine (pick_mem width items).mono fun s hs => ?_
    rcases hs with hs | rfl
    · exact hitems s hs
    · decide
  have region : Always (pick .full regions) fun r => Plain r.1 ∧ ∀ s ∈ r.2, Plain s := by
    refine (pick_mem .full regions).mono fun r hr => ?_
    rcases hr with hr | rfl
    · revert r
      decide
    · decide
  refine region.bind fun r hr => ?_
  refine (choice hr.2 .full).bind fun datacenter hdatacenter => ?_
  refine (Always.trivial (drawBelow .half rackCount)).bind fun rack _ => ?_
  refine (choice (by decide) .half).bind fun os hos => ?_
  refine (choice (by decide) .half).bind fun arch harch => ?_
  refine (choice (by decide) .half).bind fun team hteam => ?_
  refine (Always.trivial (drawBelow .half serviceCount)).bind fun service _ => .pure ⟨rfl, ?_⟩
  simp only [tags, List.forall_mem_cons]
  exact ⟨plain_hostname id, hr.1, hdatacenter, plain_toString rack, hos, harch, hteam,
    plain_toString service, List.forall_mem_nil _⟩

theorem get?_hostnameTag (h : Host) : (StringMap.ofList h.tags).get? hostnameTag = some h.name := by
  rw [StringMap.get?_ofList]
  rfl

theorem Drawn.separable {id : Nat} {h : Host} (hdrawn : Drawn id h) {metric : String}
    (hmetric : metric ∈ cpuMetrics) : Separable cpuMeasurement h.tags metric := by
  have keys : ∀ t ∈ h.tags, Plain t.1 := by
    have names : ∀ key ∈ [hostnameTag, "region", "datacenter", "rack", "os", "arch", "team",
        "service"], Plain key := by decide
    exact fun t ht => names t.1 (List.mem_map_of_mem (f := (·.1)) ht)
  have metrics : ∀ m ∈ cpuMetrics, m.toList ≠ [] ∧ '#' ∉ m.toList := by decide
  exact {
    measurement_ne := by decide
    measurement_comma := by decide
    measurement_hash := by decide
    key_comma := fun t ht => (keys t ht).1
    key_equals := fun t ht => (keys t ht).2.1
    key_hash := fun t ht => (keys t ht).2.2
    value_comma := fun t ht => (hdrawn.plain t ht).1
    value_hash := fun t ht => (hdrawn.plain t ht).2.2
    field_ne := (metrics metric hmetric).1
    field_hash := (metrics metric hmetric).2 }

end Host

namespace Fleet

theorem drawn_generate (scale : Nat) (seed : UInt64) :
    List.Forall₂ Host.Drawn (List.range scale) (generate scale seed).hosts :=
  mapM_always _ (fun id _ => Host.draw_always id) (Generator.ofSeed seed)

theorem length_hosts (scale : Nat) (seed : UInt64) :
    (generate scale seed).hosts.length = scale := by
  rw [← (drawn_generate scale seed).length_eq, List.length_range]

theorem scale_generate (scale : Nat) (seed : UInt64) : (generate scale seed).scale = scale :=
  length_hosts scale seed

theorem names_generate (scale : Nat) (seed : UInt64) :
    (generate scale seed).hosts.map (·.name) = (List.range scale).map Host.hostname := by
  have h := drawn_generate scale seed
  generalize List.range scale = ids at h
  generalize (generate scale seed).hosts = hosts at h
  induction h with
  | nil => rfl
  | cons hdrawn _ ih => rw [List.map_cons, List.map_cons, ih, hdrawn.name_eq]

theorem nodup_names (scale : Nat) (seed : UInt64) :
    ((generate scale seed).hosts.map (·.name)).Nodup := by
  rw [names_generate]
  exact List.Nodup.map (fun _ _ => Host.hostname_injective) List.nodup_range

end Fleet
end SeriesBench
