import PowerDiscovery.Proofs.Run.Completion
import PowerDiscovery.Proofs.Run.Dispatch

/-! # Runs in every mode

A run comes to the same whether its workers go on together or one after the other, and whatever the order
of their steps is when they go on together. -/

namespace PowerDiscovery.Run

/-- A plan in a mode: whether its workers go on together, and whose turns there are then. -/
def Plan.inMode (plan : Plan) (parallel : Value) (turns : List Backend) : Plan :=
  { plan with settings := { plan.settings with parallel := parallel }, turns := turns }

variable {plan : Plan}

private theorem startFault_inMode (hstart : ∀ b, plan.hazards.start b = none) (parallel : Value)
    (turns : List Backend) (b : Backend) : startFault (plan.inMode parallel turns) b = none := by
  unfold startFault
  split
  · exact hstart b
  · rfl

private theorem work_value_inMode (hstart : ∀ b, plan.hazards.start b = none) (parallel parallel' : Value)
    (turns turns' : List Backend) (s : State) :
    (work (plan.inMode parallel turns) s).value = (work (plan.inMode parallel' turns') s).value := by
  have hdispatch (s : State) := dispatch_value_congr s (p := plan.inMode parallel turns)
    (q := plan.inMode parallel' turns') (fun b => by
      rw [startFault_inMode hstart, startFault_inMode hstart]) s.enabled
  simp only [work, Traced.bind_value, hdispatch]
  split
  · rfl
  · simp only [Traced.bind_value, Traced.pure_value, awaitCompletion_value]
    rfl

/-- A run whose workers can all be started leaves the same slots and claims after waiting for them, and
comes to the same text or refusal, in every mode. -/
theorem execute_value_inMode (plan : Plan) (hstart : ∀ b, plan.hazards.start b = none)
    (parallel parallel' : Value) (turns turns' : List Backend) (s : State) :
    (∀ s', (work (plan.inMode parallel turns) s').value =
      (work (plan.inMode parallel' turns') s').value) ∧
    (execute (plan.inMode parallel turns) s).value =
      (execute (plan.inMode parallel' turns') s).value := by
  have hwork := work_value_inMode hstart parallel parallel' turns turns'
  refine ⟨hwork, ?_⟩
  have hprepare : prepare (plan.inMode parallel turns) s = prepare (plan.inMode parallel' turns') s := rfl
  simp only [execute, Traced.bind_value, hprepare]
  split
  · rfl
  · simp only [scan, Traced.bind_value, hwork]
    split <;> rfl

/-- Engines that find a device at their own target and at every range but one, where they fail. -/
private def failingOnce : Engines := fun b =>
  { isAvailable := true
    scan := fun _ start _ _ _ => match start with
      | none => return some [{ backend := b, driver := "driver", port := "auto" }]
      | some start =>
        if start = .text "10.0.0.1" then throw Fault.expired
        else return some [{ backend := b, driver := "driver", port := start.display }] }

private def threeBackends : Plan :=
  { settings := { displayMode := .mode .lines }, requested := [.usb, .xml, .nut]
    engines := failingOnce }

private def twoRanges : State :=
  { registry := { ranges := ["10.0.0.1", "10.0.0.2"].map fun a => ⟨.text a, .text a⟩ }
    bench := { budget := { value := .number 1 }, gate := {} }
    slots := { claimed := fun b => b = .xml } }

theorem execute_value_inMode_interleaved :
    (execute (threeBackends.inMode (.truth true) [.nut, .usb, .nut, .usb]) twoRanges).value.text =
      .ok "USB:driver=\"driver\",port=\"auto\"\nNUT:driver=\"driver\",port=\"10.0.0.2\"\n" := by
  rw [(execute_value_inMode threeBackends (fun _ => rfl) (.truth true) (.truth false)
    [.nut, .usb, .nut, .usb] [] twoRanges).2]
  rfl

end PowerDiscovery.Run
