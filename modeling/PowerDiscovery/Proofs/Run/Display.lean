import PowerDiscovery.Run.Execution

/-! # What a run displays

One renderer writes the lists of all backends, in their order, and the slots are emptied on the way.  The
text is what the renderer writes for the lists as they were before. -/

namespace PowerDiscovery.Run

/-- What one renderer of a mode writes for the lists of all backends. -/
def displayed (mode : DisplayMode) (lists : Backend → List Device) : Except Error String :=
  match ({ mode := mode } : Renderer).texts (Backend.all.map lists) with
  | .ok texts => .ok (String.join texts)
  | .error f => .error (.fault f)

private theorem renderAll_text (renderer : Renderer) (s : State) (sofar : String) {bs : List Backend}
    (hnodup : bs.Nodup) :
    (renderAll renderer s sofar bs).text = match renderer.texts (bs.map s.slots.found) with
      | .ok texts => .ok (sofar ++ String.join texts)
      | .error f => .error (.fault f) := by
  induction bs generalizing renderer s sofar with
  | nil => simp [renderAll, Renderer.texts, String.join]
  | cons b bs ih =>
    obtain ⟨hb, hbs⟩ := List.nodup_cons.mp hnodup
    simp only [renderAll, List.map_cons, Renderer.texts]
    cases htext : renderer.text (s.slots.found b) with
    | error f => rfl
    | ok text =>
      -- Emptying the slot of one backend leaves the lists of those after it as they are.
      have hlists : bs.map (s.slots.release b).found = bs.map s.slots.found := by
        refine List.map_congr_left fun x hx => ?_
        have hne : x ≠ b := fun h => hb (h ▸ hx)
        exact Backend.updated_of_ne _ hne _
      simp only [ih _ _ _ hbs, hlists]
      cases (renderer.after (s.slots.found b)).texts (bs.map s.slots.found) with
      | error f => rfl
      | ok texts => simp [bind, Except.bind, pure, Except.pure, String.append_assoc]

private theorem render_text (plan : Plan) (s : State) {mode : DisplayMode}
    (hmode : plan.settings.displayMode.mode? = some mode) :
    (render plan s).text = displayed mode s.slots.found := by
  simp only [render, hmode, renderAll_text _ _ _ Backend.nodup_all, String.empty_append]
  rfl

theorem finish_text (plan : Plan) (s : State) {mode : DisplayMode}
    (hmode : plan.settings.displayMode.mode? = some mode) :
    (finish plan s).value.text = displayed mode s.slots.found := by
  have hrender := render_text plan (s.enter .rendering).value hmode
  have hslots : (s.enter .rendering).value.slots = s.slots := rfl
  rw [← hslots, ← hrender]
  simp only [finish, Traced.bind_value]
  split <;> rename_i hrendered <;> rw [hrendered] <;> rfl

end PowerDiscovery.Run
