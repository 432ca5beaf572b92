import FilterQuery.Proofs.Chain.Step

/-! # Reachable chains

The chains that calls can build, each call under a policy of its own. A chain that is received
has been built in the same way. What holds of the empty chain, and is kept by every step and by
every merge, holds of all of them.
-/

namespace FilterQuery.Chain

/-- The chains that `allowed` calls build. -/
inductive Built (allowed : Call → Prop) : Chain → Prop where
  | new : Built allowed {}
  | call {policy c call d} : Built allowed c → call.isMerge = false → allowed call →
      c.apply policy call = .ok d → Built allowed d
  | merge {c m} : Built allowed c → Built allowed m → Built allowed (c.merge m)

/-- The chains that calls of any kind build. -/
def Reachable (c : Chain) : Prop :=
  Built (fun _ => True) c

variable {c d : Chain} {policy : GroupPolicy}

theorem Built.keep {allowed : Call → Prop} {P : Chain → Prop} (h : Built allowed c) (new : P {})
    (step : ∀ {policy c call s}, allowed call → s ∈ call.steps → P c → c.Admits policy s →
      P (c.perform s))
    (merge : ∀ {c m}, P c → P m → P (c.merge m)) : P c := by
  induction h with
  | new => exact new
  | call _ single allow made ih =>
      exact (steps_of_apply made single).keep_of_mem (fun member => step allow member) ih
  | merge _ _ ihc ihm => exact merge ihc ihm

namespace Built

variable {allowed : Call → Prop}

theorem apply {call : Call} (h : c.Built allowed) (allow : allowed call)
    (received : ∀ m, call = .merge m → m.Built allowed) (made : c.apply policy call = .ok d) :
    d.Built allowed := by
  cases single : call.isMerge with
  | false => exact .call h single allow made
  | true =>
      cases call with
      | merge m =>
          cases made
          exact h.merge (received m rfl)
      | _ => cases single

theorem run (h : c.Built allowed) (policy : GroupPolicy) (calls : List Call)
    (allow : ∀ call ∈ calls, allowed call) (received : ∀ m, .merge m ∈ calls → m.Built allowed)
    (made : Chain.run policy c calls = .ok d) : d.Built allowed := by
  induction calls generalizing c with
  | nil =>
      cases made
      exact h
  | cons call rest ih =>
      obtain ⟨next, first, later⟩ := run_cons_eq_ok.1 made
      have here : next.Built allowed := by
        refine h.apply (allow call List.mem_cons_self) ?_ first
        rintro m rfl
        exact received m List.mem_cons_self
      refine ih here ?_ ?_ later
      · exact fun other member => allow other (List.mem_cons_of_mem call member)
      · exact fun m member => received m (List.mem_cons_of_mem call member)

end Built

namespace Reachable

theorem new : Reachable {} :=
  Built.new

theorem keep {P : Chain → Prop} (h : c.Reachable) (new : P {})
    (step : ∀ {policy c s}, P c → c.Admits policy s → P (c.perform s))
    (merge : ∀ {c m}, P c → P m → P (c.merge m)) : P c :=
  Built.keep h new (fun _ _ => step) merge

theorem apply {call : Call} (h : c.Reachable) (received : ∀ m, call = .merge m → m.Reachable)
    (made : c.apply policy call = .ok d) : d.Reachable :=
  Built.apply h trivial received made

theorem run (h : c.Reachable) (policy : GroupPolicy) (calls : List Call)
    (received : ∀ m, .merge m ∈ calls → m.Reachable) (made : Chain.run policy c calls = .ok d) :
    d.Reachable :=
  Built.run h policy calls (fun _ _ => trivial) received made

end Reachable

end FilterQuery.Chain
