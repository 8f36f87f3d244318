import Courier.Request

/-!
# Layers as a stack

However a layer was put together, it is a stack of layers seen from above: what is set or merged
goes on top, what is merged under goes to the bottom. Every optional part is that of the topmost
layer that gives it, and the headers are those of all layers from the bottom up. Applying the whole
is applying the layers one by one, so `merge` and `apply` are the same layering.

Stacks are lists from bottom to top.
-/

namespace Courier.Layer

/-! ## Merging and applying -/

@[simp] theorem empty_merge (layer : Layer) : empty.merge layer = layer := by
  cases layer
  simp [merge, empty]

@[simp] theorem merge_empty (layer : Layer) : layer.merge empty = layer := by
  cases layer
  simp [merge, empty]

theorem merge_assoc (a b c : Layer) : (a.merge b).merge c = a.merge (b.merge c) := by
  simp only [merge, Option.or_assoc, List.append_assoc]

@[simp] theorem apply_empty (request : Request) : empty.apply request = request := by
  cases request
  simp [apply, empty]

/-- The lower layer is applied first. -/
theorem apply_merge (lower upper : Layer) (request : Request) :
    (lower.merge upper).apply request = upper.apply (lower.apply request) := by
  have hgetD : ∀ {α : Type} (u l : Option α) (d : α), (u.or l).getD d = u.getD (l.getD d) := by
    intro α u l d
    cases u <;> rfl
  simp only [merge, apply, hgetD, Option.or_assoc, List.append_assoc]

/-! ## Stacks -/

/-- The value of a part in the topmost layer that gives one. A given `null` is a value. -/
def topmost {α : Type} (part : Layer → Option α) (stack : List Layer) : Option α :=
  stack.reverse.findSome? part

/-- The layers of a stack merged from the bottom up. -/
def flat (stack : List Layer) : Layer :=
  stack.foldl merge empty

theorem topmost_cons {α : Type} (part : Layer → Option α) (layer : Layer) (stack : List Layer) :
    topmost part (layer :: stack) = (topmost part stack).or (part layer) := by
  simp only [topmost, List.reverse_cons, List.findSome?_append, List.findSome?_singleton]

/-- Layers merged on a given one are merged on it as a whole. -/
theorem foldl_merge (start : Layer) (stack : List Layer) :
    stack.foldl merge start = start.merge (flat stack) := by
  -- the start varies: the lowest layer goes into it
  induction stack generalizing start with
  | nil => exact (merge_empty start).symm
  | cons layer stack ih =>
    rw [flat, List.foldl_cons, List.foldl_cons, empty_merge, ih, ih layer, merge_assoc]

theorem flat_cons (layer : Layer) (stack : List Layer) :
    flat (layer :: stack) = layer.merge (flat stack) := by
  rw [flat, List.foldl_cons, empty_merge, foldl_merge]

theorem flat_concat (stack : List Layer) (layer : Layer) :
    flat (stack ++ [layer]) = (flat stack).merge layer := by
  simp only [flat, List.foldl_append, List.foldl_cons, List.foldl_nil]

/-- **Topmost wins**, for any part that `merge` takes from the upper layer where it can. -/
theorem part_flat {α : Type} {part : Layer → Option α} (hempty : part empty = none)
    (hmerge : ∀ lower upper, part (lower.merge upper) = (part upper).or (part lower))
    (stack : List Layer) : part (flat stack) = topmost part stack := by
  induction stack with
  | nil => exact hempty
  | cons layer stack ih => rw [flat_cons, hmerge, ih, topmost_cons]

theorem headers_flat (stack : List Layer) :
    (flat stack).headers = stack.flatMap headers := by
  induction stack with
  | nil => rfl
  | cons layer stack ih =>
    rw [flat_cons, List.flatMap_cons, ← ih]
    rfl

theorem apply_flat (stack : List Layer) (request : Request) :
    (flat stack).apply request = stack.foldl (fun r layer => layer.apply r) request := by
  induction stack generalizing request with
  | nil => exact apply_empty request
  | cons layer stack ih => rw [flat_cons, apply_merge, List.foldl_cons, ih]

/-! ## Layers put together step by step -/

/-- A step in putting a layer together: a setter, or a merge with another layer. -/
inductive Edit where
  | header (name value : String)
  | timeout (duration : Duration)
  | baseUrl (url : String)
  | accepts (test : StatusTest)
  | mergeOver (upper : Layer)
  | mergeUnder (lower : Layer)

namespace Edit

/-- What a step does to the layer. -/
def run : Edit → Layer → Layer
  | header name value, layer => layer.header name value
  | timeout duration, layer => layer.withTimeout duration
  | baseUrl url, layer => layer.withBaseUrl url
  | accepts test, layer => layer.accepting test
  | mergeOver upper, layer => layer.merge upper
  | mergeUnder lower, layer => lower.merge layer

/-- What a step does to the stack. A setter is a layer that gives one part only. -/
def restack : Edit → List Layer → List Layer
  | header name value, stack => stack ++ [{ empty with headers := [(name, value)] }]
  | timeout duration, stack => stack ++ [{ empty with timeout := some duration }]
  | baseUrl url, stack => stack ++ [{ empty with baseUrl := some url }]
  | accepts test, stack => stack ++ [{ empty with accepts := some test }]
  | mergeOver upper, stack => stack ++ [upper]
  | mergeUnder lower, stack => lower :: stack

end Edit

/-- The layer that steps make of one that gives nothing. -/
def build (edits : List Edit) : Layer :=
  edits.foldl (fun layer edit => edit.run layer) empty

/-- The stack that steps make of the empty one. -/
def stackOf (edits : List Edit) : List Layer :=
  edits.foldl (fun stack edit => edit.restack stack) []

/-- A step keeps layer and stack together. -/
theorem run_flat (edit : Edit) (stack : List Layer) :
    edit.run (flat stack) = flat (edit.restack stack) := by
  cases edit with
  | mergeUnder lower => exact (flat_cons lower stack).symm
  | mergeOver upper => exact (flat_concat stack upper).symm
  | header | timeout | baseUrl | accepts =>
    rw [Edit.restack, flat_concat]
    simp [Edit.run, header, withTimeout, withBaseUrl, accepting, merge, empty]

/-- A run of steps keeps layer and stack together. -/
theorem foldl_run_flat (edits : List Edit) (stack : List Layer) :
    edits.foldl (fun layer edit => edit.run layer) (flat stack)
      = flat (edits.foldl (fun stack edit => edit.restack stack) stack) := by
  induction edits generalizing stack with
  | nil => rfl
  | cons edit edits ih => rw [List.foldl_cons, List.foldl_cons, run_flat, ih]

/-- **The whole run**: what steps make of a layer is the stack that they make, seen from above. -/
theorem build_eq_flat (edits : List Edit) : build edits = flat (stackOf edits) :=
  foldl_run_flat edits []

/-- A layer that was put together by setters, merges on top and merges below gives what its stack
gives, part by part, and does to a request what the layers of the stack do one after the other. -/
theorem build_is_layered (edits : List Edit) :
    (build edits).method = topmost method (stackOf edits) ∧
    (build edits).url = topmost url (stackOf edits) ∧
    (build edits).body = topmost body (stackOf edits) ∧
    (build edits).query = topmost query (stackOf edits) ∧
    (build edits).timeout = topmost timeout (stackOf edits) ∧
    (build edits).baseUrl = topmost baseUrl (stackOf edits) ∧
    (build edits).accepts = topmost accepts (stackOf edits) ∧
    (build edits).headers = (stackOf edits).flatMap headers ∧
    (∀ a b c : Layer, (a.merge b).merge c = a.merge (b.merge c)) ∧
    (∀ a : Layer, empty.merge a = a ∧ a.merge empty = a) ∧
    ∀ request : Request, (build edits).apply request
      = (stackOf edits).foldl (fun r layer => layer.apply r) request := by
  rw [build_eq_flat]
  -- every optional part is taken from the upper layer by definition
  refine ⟨part_flat rfl (fun _ _ => rfl) _, part_flat rfl (fun _ _ => rfl) _,
    part_flat rfl (fun _ _ => rfl) _, part_flat rfl (fun _ _ => rfl) _,
    part_flat rfl (fun _ _ => rfl) _, part_flat rfl (fun _ _ => rfl) _,
    part_flat rfl (fun _ _ => rfl) _, headers_flat _, merge_assoc, ?_, apply_flat _⟩
  intro a
  exact ⟨empty_merge a, merge_empty a⟩

end Courier.Layer
