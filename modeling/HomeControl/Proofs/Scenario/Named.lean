import HomeControl.Proofs.OrderedMap
import HomeControl.Scenario.Basic

/-!
# Names of scenarios

The compiler keeps every scenario under its own name, with the episodes that were added to it
one after the other, the first of which made it.
-/

namespace HomeControl.Scenarios

/-- Every scenario stands under its own name. -/
def Named (scenarios : Scenarios) : Prop :=
  ∀ tag scenario, scenarios.get? tag = some scenario → scenario.name = tag

def declared (attributes : Attributes) : List (String × Episode) :=
  ((Episode.read attributes).compile (attributes.numbered "Simulation")).accepted

section

variable (Holds : String → Scenario → Prop)

/-- What an episode begins with and does not end is kept by adding it. -/
theorem forall_add {scenarios : Scenarios} {episode : String × Episode}
    (begins : Holds episode.1 ⟨episode.1, [episode.2]⟩)
    (grows : ∀ scenario, Holds episode.1 scenario →
      Holds episode.1 { scenario with episodes := scenario.episodes ++ [episode.2] })
    (all : ∀ tag scenario, scenarios.get? tag = some scenario → Holds tag scenario)
    {tag : String} {scenario : Scenario}
    (found : (scenarios.add episode).get? tag = some scenario) : Holds tag scenario := by
  unfold Scenarios.add at found
  rw [OrderedMap.get?_upsert] at found
  split at found
  next same =>
    subst same
    cases earlier : scenarios.get? episode.1 with
    | none =>
        rw [earlier] at found
        cases found
        exact begins
    | some known =>
        rw [earlier] at found
        cases found
        exact grows known (all episode.1 known earlier)
  next => exact all tag scenario found

/-- What all declared episodes begin with and none ends holds of every scenario made of them. -/
theorem forall_compile {attributes : Attributes}
    (begins : ∀ episode ∈ declared attributes, Holds episode.1 ⟨episode.1, [episode.2]⟩)
    (grows : ∀ episode ∈ declared attributes, ∀ scenario, Holds episode.1 scenario →
      Holds episode.1 { scenario with episodes := scenario.episodes ++ [episode.2] })
    {tag : String} {scenario : Scenario}
    (found : (compile attributes).1.get? tag = some scenario) : Holds tag scenario := by
  have fromAny : ∀ (episodes : List (String × Episode)) (scenarios : Scenarios),
      (∀ episode ∈ episodes, episode ∈ declared attributes) →
      (∀ tag scenario, scenarios.get? tag = some scenario → Holds tag scenario) →
        ∀ tag scenario, (episodes.foldl add scenarios).get? tag = some scenario →
          Holds tag scenario := by
    intro episodes
    induction episodes with
    | nil => exact fun _ _ all => all
    | cons episode rest ih =>
        intro scenarios inside all
        obtain ⟨here, later⟩ := List.forall_mem_cons.mp inside
        refine ih _ later ?_
        intro tag scenario found
        exact forall_add Holds (begins episode here) (grows episode here) all found
  exact fromAny _ OrderedMap.empty (fun _ member => member) (fun _ _ found => nomatch found) tag
    scenario found

end

theorem named_compile (attributes : Attributes) : (compile attributes).1.Named :=
  fun _ _ found => forall_compile (fun name scenario => scenario.name = name)
    (fun _ _ => rfl) (fun _ _ _ own => own) found

/-- No scenario is compiled without an episode. -/
theorem episodes_ne_nil_of_compile {attributes : Attributes} {tag : String}
    {scenario : Scenario} (found : (compile attributes).1.get? tag = some scenario) :
    scenario.episodes ≠ [] :=
  forall_compile (fun _ scenario => scenario.episodes ≠ [])
    (fun _ _ => List.cons_ne_nil _ _) (fun _ _ _ _ => List.concat_ne_nil _ _) found

end HomeControl.Scenarios
