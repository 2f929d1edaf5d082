import VoxelStream.Setup.Basic
import Mathlib.Algebra.GroupWithZero.Nat
import Mathlib.Data.List.Dedup
import Mathlib.Data.List.Forall2
import Mathlib.Data.List.Induction
import Mathlib.Data.String.Basic

/-!
# Plan tables

`PlanTable.record` puts a plan at the place of its name.  Three equations say what it does at the
head of a table, one for each way the names can compare, and every fact about it is an induction
with these three cases.  A table is *ordered* if its names increase strictly, so that each occurs
once.  Recording keeps that.

A table of layers is built by recording one layer after the other.  Its names are those of the
layers, and the last layer of a name has its plan there (`plan?_ofLayers`).  If no name is repeated,
the table is a rearrangement of the plans of the layers (`ofLayers_perm`).  The slots and the shared
capacity of a table do not depend on the arrangement.
-/

namespace VoxelStream

namespace PlanTable

variable {name other : String} {plan : PackingPlan} {entry : String × PackingPlan}
  {table : PlanTable}

/-- The names of the layers that have a plan. -/
def names (table : PlanTable) : List String := table.map (·.1)

/-- The names increase strictly. -/
def Ordered (table : PlanTable) : Prop := table.Pairwise fun first second => first.1 < second.1

theorem Ordered.nodup_names (ordered : table.Ordered) : table.names.Nodup :=
  List.pairwise_map.mpr (ordered.imp fun less => less.ne)

/-! ## Recording -/

theorem record_before (before : name < entry.1) :
    record name plan (entry :: table) = (name, plan) :: entry :: table := by
  rw [record, if_pos before]

theorem record_same (same : name = entry.1) :
    record name plan (entry :: table) = (name, plan) :: table := by
  rw [record, same, if_neg (lt_irrefl _), if_neg (lt_irrefl _)]

theorem record_after (after : entry.1 < name) :
    record name plan (entry :: table) = entry :: record name plan table := by
  rw [record, if_neg (lt_asymm after), if_pos after]

/-- Recording adds no entry but its own. -/
theorem mem_of_mem_record (member : entry ∈ record name plan table) :
    entry = (name, plan) ∨ entry ∈ table := by
  induction table with
  | nil => exact .inl (List.mem_singleton.mp member)
  | cons first rest ih =>
    rcases lt_trichotomy name first.1 with before | same | after
    · rw [record_before before] at member
      exact List.mem_cons.mp member
    · rw [record_same same] at member
      exact (List.mem_cons.mp member).imp_right (List.mem_cons_of_mem _)
    · rw [record_after after] at member
      rcases List.mem_cons.mp member with here | later
      · exact .inr (here ▸ List.mem_cons_self)
      · exact (ih later).imp_right (List.mem_cons_of_mem _)

@[simp] theorem mem_names_record :
    other ∈ (record name plan table).names ↔ other = name ∨ other ∈ table.names := by
  induction table with
  | nil => simp [record, names]
  | cons first rest ih =>
    simp only [names] at ih ⊢
    rcases lt_trichotomy name first.1 with before | same | after
    · rw [record_before before]
      simp
    · rw [record_same same]
      simp [same]
    · rw [record_after after, List.map_cons, List.mem_cons, ih, List.map_cons, List.mem_cons]
      exact or_left_comm

/-- Recording keeps the names in order. -/
theorem ordered_record (name : String) (plan : PackingPlan) (ordered : table.Ordered) :
    (record name plan table).Ordered := by
  induction table with
  | nil => exact List.pairwise_singleton _ _
  | cons first rest ih =>
    obtain ⟨first_lt, orderedRest⟩ := List.pairwise_cons.mp ordered
    rcases lt_trichotomy name first.1 with before | same | after
    · rw [record_before before]
      refine List.pairwise_cons.mpr ⟨?_, ordered⟩
      intro later member
      rcases List.mem_cons.mp member with rfl | inRest
      · exact before
      · exact before.trans (first_lt later inRest)
    · rw [record_same same]
      refine List.pairwise_cons.mpr ⟨?_, orderedRest⟩
      intro later member
      exact same ▸ first_lt later member
    · rw [record_after after]
      refine List.pairwise_cons.mpr ⟨?_, ih orderedRest⟩
      intro later member
      rcases mem_of_mem_record member with rfl | inRest
      · exact after
      · exact first_lt later inRest

/-- Recording changes what is planned for one name. -/
theorem plan?_record :
    plan? other (record name plan table) =
      if other = name then some plan else plan? other table := by
  induction table with
  | nil =>
    by_cases here : other = name
    · simp [record, plan?, here]
    · simp [record, plan?, here]
  | cons first rest ih =>
    simp only [plan?] at ih ⊢
    rcases lt_trichotomy name first.1 with before | same | after
    · rw [record_before before, List.lookup_cons]
      by_cases here : other = name
      · simp [here]
      · simp [here, beq_false_of_ne here]
    · rw [record_same same, List.lookup_cons, List.lookup_cons, ← same]
      by_cases here : other = name
      · simp [here]
      · simp [here, beq_false_of_ne here]
    · rw [record_after after, List.lookup_cons, List.lookup_cons, ih]
      by_cases here : other = name
      · have differs : (other == first.1) = false := by simp [here, after.ne']
        rw [differs]
      · rw [if_neg here, if_neg here]

/-- A plan for a new name is one more entry. -/
theorem record_perm (new : name ∉ table.names) :
    (record name plan table).Perm ((name, plan) :: table) := by
  induction table with
  | nil => exact .refl _
  | cons first rest ih =>
    rcases lt_trichotomy name first.1 with before | same | after
    · rw [record_before before]
    · exact absurd (same ▸ List.mem_cons_self) new
    · rw [record_after after]
      exact ((ih fun later => new (List.mem_cons_of_mem _ later)).cons first).trans (.swap ..)

/-! ## Related tables -/

section

variable {relation : PackingPlan → PackingPlan → Prop} {first second : PlanTable}

/-- Two tables have the same names, and related plans for each. -/
def Related (relation : PackingPlan → PackingPlan → Prop) (first second : PlanTable) : Prop :=
  List.Forall₂ (fun left right => left.1 = right.1 ∧ relation left.2 right.2) first second

/-- Related tables have the same names. -/
theorem Related.names_eq (tables : Related relation first second) :
    first.names = second.names := by
  induction tables with
  | nil => rfl
  | cons here _ ih => exact congrArg₂ List.cons here.1 ih

theorem Related.exists_plan? (tables : Related relation first second)
    (found : second.plan? name = some plan) :
    ∃ counterpart, first.plan? name = some counterpart ∧ relation counterpart plan := by
  simp only [plan?] at found ⊢
  induction tables with
  | nil => cases found
  | cons here _ ih =>
    rw [List.lookup_cons] at found ⊢
    rw [here.1]
    split at found
    next => exact ⟨_, rfl, Option.some.inj found ▸ here.2⟩
    next => exact ih found

/-- Recording related plans under one name keeps tables related. -/
theorem Related.record {firstPlan secondPlan : PackingPlan}
    (tables : Related relation first second) (plans : relation firstPlan secondPlan) :
    Related relation (record name firstPlan first) (record name secondPlan second) := by
  induction tables with
  | nil => exact .cons ⟨rfl, plans⟩ .nil
  | @cons left right leftRest rightRest here later ih =>
    rcases lt_trichotomy name left.1 with before | same | after
    · rw [record_before before, record_before (here.1 ▸ before)]
      exact .cons ⟨rfl, plans⟩ (.cons here later)
    · rw [record_same same, record_same (same.trans here.1)]
      exact .cons ⟨rfl, plans⟩ later
    · rw [record_after after, record_after (here.1 ▸ after)]
      exact .cons here ih

end

/-! ## Tables of layers -/

section

variable {limits : Limits} {required : UInt32} {layers : List Layer}

/-- One layer more is recorded last. -/
@[simp] theorem ofLayers_concat (layer : Layer) :
    ofLayers limits required (layers ++ [layer]) =
      record layer.name (layer.packing limits required) (ofLayers limits required layers) := by
  simp [ofLayers]

theorem ordered_ofLayers (limits : Limits) (required : UInt32) (layers : List Layer) :
    (ofLayers limits required layers).Ordered := by
  induction layers using List.reverseRecOn with
  | nil => exact .nil
  | append_singleton rest layer ih =>
    rw [ofLayers_concat]
    exact ordered_record _ _ ih

@[simp] theorem mem_names_ofLayers :
    name ∈ (ofLayers limits required layers).names ↔ name ∈ layers.map Layer.name := by
  induction layers using List.reverseRecOn with
  | nil => rfl
  | append_singleton rest layer ih =>
    rw [ofLayers_concat, mem_names_record, ih, List.map_append, List.mem_append, or_comm]
    simp

/-- The plan of a name is that of the last layer of that name. -/
theorem plan?_ofLayers {earlier later : List Layer} {layer : Layer}
    (last : ∀ follower ∈ later, follower.name ≠ layer.name) :
    plan? layer.name (ofLayers limits required (earlier ++ layer :: later)) =
      some (layer.packing limits required) := by
  induction later using List.reverseRecOn with
  | nil => rw [ofLayers_concat, plan?_record, if_pos rfl]
  | append_singleton rest follower ih =>
    have differs := last follower (by simp)
    rw [← List.cons_append, ← List.append_assoc, ofLayers_concat, plan?_record, if_neg differs.symm]
    exact ih fun other member => last other (List.mem_append_left _ member)

/-- A name is planned if it has a layer, and then for the last one. -/
theorem plan?_ofLayers_eq (limits : Limits) (required : UInt32) (layers : List Layer)
    (name : String) :
    plan? name (ofLayers limits required layers) =
      (layers.reverse.find? (·.name == name)).map (·.packing limits required) := by
  induction layers using List.reverseRecOn with
  | nil => rfl
  | append_singleton rest layer ih =>
    rw [ofLayers_concat, plan?_record, ih, List.reverse_append, List.reverse_singleton,
      List.singleton_append, List.find?_cons]
    by_cases here : layer.name = name
    · simp [here]
    · simp [Ne.symm here, beq_false_of_ne here]

/-- Every plan of the table is that of a layer. -/
theorem exists_layer_of_mem_ofLayers (member : entry ∈ ofLayers limits required layers) :
    ∃ layer ∈ layers, entry = (layer.name, layer.packing limits required) := by
  induction layers using List.reverseRecOn with
  | nil => cases member
  | append_singleton rest layer ih =>
    rw [ofLayers_concat] at member
    rcases mem_of_mem_record member with rfl | earlier
    · exact ⟨layer, by simp, rfl⟩
    · obtain ⟨found, inRest, rfl⟩ := ih earlier
      exact ⟨found, List.mem_append_left _ inRest, rfl⟩

/-- Without repeated names no plan is replaced. -/
theorem ofLayers_perm (distinct : (layers.map Layer.name).Nodup) :
    (ofLayers limits required layers).Perm
      (layers.map fun layer => (layer.name, layer.packing limits required)) := by
  induction layers using List.reverseRecOn with
  | nil => exact .refl _
  | append_singleton rest layer ih =>
    rw [List.map_append, List.nodup_append'] at distinct
    obtain ⟨distinctRest, -, apart⟩ := distinct
    have new : layer.name ∉ (ofLayers limits required rest).names := by
      rw [mem_names_ofLayers]
      exact fun member => apart member (by simp)
    rw [ofLayers_concat, List.map_append]
    exact (record_perm new).trans
      (((ih distinctRest).cons _).trans (List.perm_append_singleton ..).symm)

/-- Without repeated names the order of the layers does not matter. -/
theorem ofLayers_eq_of_perm {rearranged : List Layer}
    (distinct : (layers.map Layer.name).Nodup) (perm : rearranged.Perm layers) :
    ofLayers limits required rearranged = ofLayers limits required layers := by
  have distinctToo : (rearranged.map Layer.name).Nodup := (perm.map _).nodup_iff.mpr distinct
  have tables : (ofLayers limits required rearranged).Perm (ofLayers limits required layers) :=
    (ofLayers_perm distinctToo).trans ((perm.map _).trans (ofLayers_perm distinct).symm)
  exact tables.eq_of_pairwise (fun _ _ _ _ less more => absurd more (lt_asymm less))
    (ordered_ofLayers ..) (ordered_ofLayers ..)

/-- A table of layers has one entry per name. -/
theorem length_ofLayers (limits : Limits) (required : UInt32) (layers : List Layer) :
    (ofLayers limits required layers).length = (layers.map Layer.name).dedup.length := by
  have perm : (ofLayers limits required layers).names.Perm (layers.map Layer.name).dedup := by
    rw [List.perm_ext_iff_of_nodup (ordered_ofLayers ..).nodup_names (List.nodup_dedup _)]
    intro name
    rw [mem_names_ofLayers, List.mem_dedup]
  rw [← perm.length_eq, names, List.length_map]

/-- Related plans of the layers make related tables. -/
theorem related_ofLayers {relation : PackingPlan → PackingPlan → Prop} {otherLimits : Limits}
    {otherRequired : UInt32}
    (plans : ∀ layer : Layer, relation (layer.packing limits required)
      (layer.packing otherLimits otherRequired)) (layers : List Layer) :
    Related relation (ofLayers limits required layers)
      (ofLayers otherLimits otherRequired layers) := by
  induction layers using List.reverseRecOn with
  | nil => exact .nil
  | append_singleton rest layer ih =>
    rw [ofLayers_concat, ofLayers_concat]
    exact ih.record (plans layer)

end

/-! ## Slots -/

/-- A lookup texture per name, and the textures of all plans. -/
theorem slots_eq (table : PlanTable) :
    table.slots = table.length + (table.map fun entry => entry.2.textureCount.toNat).sum := by
  induction table with
  | nil => rfl
  | cons first rest ih =>
    rw [slots, ih, lookupTexturesPerLayer, List.length_cons, List.map_cons, List.sum_cons]
    omega

/-- Slots do not depend on the order of the entries. -/
theorem slots_perm {first second : PlanTable} (perm : first.Perm second) :
    first.slots = second.slots := by
  rw [slots_eq, slots_eq, perm.length_eq, (perm.map _).sum_nat]

/-- A new name takes one slot and those of its textures. -/
theorem slots_record (new : name ∉ table.names) :
    (record name plan table).slots = table.slots + (1 + plan.textureCount.toNat) := by
  rw [slots_perm (record_perm new), slots, lookupTexturesPerLayer, Nat.add_comm]

theorem Related.slots_le {first second : PlanTable}
    (tables : Related (fun left right => left.textureCount.toNat ≤ right.textureCount.toNat)
      first second) : first.slots ≤ second.slots := by
  induction tables with
  | nil => exact Nat.le_refl _
  | cons here _ ih =>
    have fewer := here.2
    rw [slots, slots]
    omega

/-! ## Shared capacity -/

/-- No plan has less than the shared capacity. -/
theorem sharedCapacity_le (member : entry ∈ table) : table.sharedCapacity ≤ entry.2.capacity :=
  List.min?_getD_le_of_mem (List.mem_map_of_mem member)

/-- The shared capacity is that of some layer. -/
theorem exists_capacity_eq (nonempty : table ≠ []) :
    ∃ entry ∈ table, entry.2.capacity = table.sharedCapacity := by
  cases least : (table.map fun entry => entry.2.capacity).min? with
  | none => simp [nonempty] at least
  | some capacity =>
    obtain ⟨entry, member, same⟩ := List.mem_map.mp (List.min?_mem least)
    exact ⟨entry, member, by rw [sharedCapacity, least, same, Option.getD_some]⟩

/-- A plan for a new name can only lower the shared capacity. -/
theorem sharedCapacity_record (new : name ∉ table.names) (nonempty : table ≠ []) :
    (record name plan table).sharedCapacity = min table.sharedCapacity plan.capacity := by
  have members : ∀ {entry}, entry ∈ record name plan table ↔ entry = (name, plan) ∨ entry ∈ table :=
    fun {entry} => (record_perm new).mem_iff.trans List.mem_cons
  apply Nat.le_antisymm
  · obtain ⟨entry, member, least⟩ := exists_capacity_eq nonempty
    rw [← least]
    exact Nat.le_min.mpr ⟨sharedCapacity_le (members.mpr (.inr member)),
      sharedCapacity_le (members.mpr (.inl rfl))⟩
  · have some_entry : record name plan table ≠ [] :=
      List.ne_nil_of_mem (members.mpr (.inl rfl))
    obtain ⟨entry, member, least⟩ := exists_capacity_eq some_entry
    rw [← least]
    rcases members.mp member with rfl | inTable
    · exact Nat.min_le_right ..
    · exact Nat.le_trans (Nat.min_le_left ..) (sharedCapacity_le inTable)

end PlanTable

end VoxelStream
