import Calculator.Proofs.WalkOrder

/-!
# A failure names the nodes above it

A walk fails at the first node in post-order at which it comes to no result. A failure has no trail
there, whatever the node itself carries. On its way out it is told the nodes above, and nothing
else: neither operands that are done nor those that were never looked at. So its trail names the
sign or the operator of each node above, from the parent up to the root, and where one of these has
no name there is no failure any more but the fault of asking for it.

What counts at a node above is that name, not whether the node could be worked out. An operator of
the right kind has one, and so has one of the other kind, with which no value is computed. A bare
text has none, even one that writes an operator and is evaluated like it.

The first node at which a walk fails is found by walking the nodes of the tree one after the other,
each as a tree of its own. That the walk of the whole tree stops there as well, with the nodes above
as the unfinished tasks on its list, comes from the order in which it calls its handlers.
-/

namespace Calculator

open Calculator.Expr

/-- Failures that come from the handlers have no trail. -/
def Handlers.Traceless {α : Type} (h : Handlers α) : Prop :=
  ∀ call f, h.answer call = .error (.failed f) → f.trail = []

namespace Expr

/-! ## What a node above leaves -/

namespace Ancestor

variable {above : List Ancestor}

/-- Nodes above leave their crumbs in one way only. -/
theorem crumbs_unique {crumbs crumbs' : List Crumb} (h : crumbs.map some = above.map crumb?)
    (h' : crumbs'.map some = above.map crumb?) : crumbs = crumbs' :=
  (List.map_inj_right fun _ _ => Option.some.inj).mp (h.trans h'.symm)

theorem leaveAll_unnamedOperator (above : List Ancestor) :
    leaveAll above .unnamedOperator = .unnamedOperator := by
  induction above with
  | nil => rfl
  | cons a above ih => cases a <;> exact ih

/-- A failure does not pass a node without a name. -/
theorem leaveAll_of_not_named (h : ∃ a ∈ above, ¬a.Named) (f : Failure) :
    leaveAll above (.failed f) = .unnamedOperator := by
  induction above generalizing f with
  | nil =>
    obtain ⟨a, ha, -⟩ := h
    cases ha
  | cons a above ih =>
    rw [leaveAll]
    by_cases hnamed : a.Named
    · obtain ⟨crumb, hcrumb⟩ := named_iff.mp hnamed
      rw [leave_of_crumb hcrumb]
      obtain ⟨b, hb, hnot⟩ := h
      rcases List.mem_cons.mp hb with rfl | hb
      · exact absurd hnamed hnot
      · exact ih ⟨b, hb, hnot⟩ _
    · rw [leave_of_not_named hnamed, leaveAll_unnamedOperator]

end Ancestor

/-! ## The first node that fails -/

section FirstFailing

variable {α β : Type} {h : Handlers α} {e node : Expr} {above : List Ancestor} {fault : Fault}

/-- The first node in post-order at which a walk fails, with the nodes above it. Each node is walked
as a tree of its own. -/
def firstFailing (walk : Expr → Except Fault β) (e : Expr) : Option (Expr × List Ancestor) :=
  e.visits.find? fun visit => !(walk visit.1).isOk

theorem Asks.fold_eq {call : Call α} (ha : Asks h e call) : e.fold h = h.answer call := by
  cases ha with
  | literal x => rfl
  | unary he => simp only [fold, he, Handlers.answer]
  | binary hl hr => simp only [fold, hl, hr, Handlers.answer]

theorem Fails.fold_eq {made : List (Call α)} (hf : Fails h e made fault) :
    e.fold h = .error fault := by
  cases hf with
  | refused ha hf => rw [ha.fold_eq, hf]
  | foreign kind => rfl

theorem Passes.isOk_walk {nodes : List (Expr × List Ancestor)} {made : List (Call α)}
    (hp : Passes h nodes made) : ∀ visit ∈ nodes, (visit.1.walk h).isOk = true := by
  induction hp with
  | nil => intro visit hvisit; cases hvisit
  | cons hfirst _ ih =>
    intro visit hvisit
    rcases List.mem_cons.mp hvisit with rfl | hvisit
    · obtain ⟨hasks, x, hx⟩ := hfirst
      rw [walk_eq_fold, hasks.fold_eq, hx]
      rfl
    · exact ih visit hvisit

/-- A walk that succeeds comes to a result at every node. -/
theorem firstFailing_eq_none {x : α} (hw : e.walk h = .ok x) : e.firstFailing (walk h) = none := by
  obtain ⟨made, hfolds, -⟩ := exists_works h e
  have hvisited := hfolds.visited
  rw [hw] at hvisited
  refine List.find?_eq_none.mpr fun visit hvisit => ?_
  rw [Passes.isOk_walk hvisited visit hvisit]
  decide

/-- **A walk that fails does so at the first node that fails**, with a fault that leaves all nodes
above it. -/
theorem exists_firstFailing (hw : e.walk h = .error fault) :
    ∃ node above made own, e.firstFailing (walk h) = some (node, above) ∧
      Fails h node made own ∧ fault = Ancestor.leaveAll above own := by
  obtain ⟨made, hfolds, -⟩ := exists_works h e
  have hvisited := hfolds.visited
  rw [hw] at hvisited
  obtain ⟨before, node, above, after, done, last, own, hvisits, hbefore, hnode, -, rfl⟩ :=
    FailsFirst.exists hvisited
  refine ⟨node, above, last, own,
    List.find?_eq_some_iff_append.mpr ⟨?_, before, after, hvisits, ?_⟩, hnode, rfl⟩
  · rw [walk_eq_fold, hnode.fold_eq]
    rfl
  · intro visit hvisit
    rw [hbefore.isOk_walk visit hvisit]
    rfl

/-- A failure of a node by itself has no trail, if those of the handlers have none. -/
theorem Fails.trail_eq_nil {made : List (Call α)} {f : Failure} (ht : h.Traceless)
    (hf : Fails h e made (.failed f)) : f.trail = [] := by
  cases hf with
  | refused ha hf => exact ht _ _ hf
  | foreign kind => rfl

end FirstFailing

/-! ## The trail -/

section Walks

variable {α β γ : Type}

/-- A walk fails with `f` at a node below others, and at no node before it. -/
def FailsAt (walk : Expr → Except Fault β) (e node : Expr) (above : List Ancestor) (f : Failure) :
    Prop :=
  e.firstFailing walk = some (node, above) ∧ walk node = .error (.failed f)

/-- What a walk says of its failures. -/
structure NamesAncestors (walk : Expr → Except Fault β) : Prop where
  /-- A walk fails just if it does at some node. -/
  fails_iff (e : Expr) :
    (∃ fault, walk e = .error fault) ↔ ∃ visit, e.firstFailing walk = some visit
  /-- The node that fails is not named, whatever it carries. -/
  fresh {e node : Expr} {above : List Ancestor} {f : Failure}
    (h : FailsAt walk e node above f) : f.trail = []
  /-- Where all nodes above have names, the trail has one crumb for each of them, the parent
  innermost and the root outermost, and nothing else. -/
  named {e node : Expr} {above : List Ancestor} {f : Failure} (h : FailsAt walk e node above f)
    (hnamed : ∀ a ∈ above, a.Named) :
    ∃ trail, walk e = .error (.failed { f with trail }) ∧
      trail.reverse.map some = above.map Ancestor.crumb?
  /-- Where one of them has none, its name is asked for in vain. -/
  unnamed {e node : Expr} {above : List Ancestor} {f : Failure} (h : FailsAt walk e node above f)
    (hnot : ∃ a ∈ above, ¬a.Named) : walk e = .error .unnamedOperator
  /-- Failures below the same nodes have the same trail, whatever nodes they are. -/
  unmarked {e e' node node' : Expr} {above : List Ancestor} {f f' g g' : Failure}
    (h : FailsAt walk e node above f) (h' : FailsAt walk e' node' above f')
    (hw : walk e = .error (.failed g)) (hw' : walk e' = .error (.failed g')) : g.trail = g'.trail

variable {h : Handlers α} {e node : Expr} {above : List Ancestor} {f : Failure}

/-- A failure leaves all nodes above the one that fails. -/
theorem FailsAt.walk_eq (hf : FailsAt (walk h) e node above f) (ht : h.Traceless) :
    f.trail = [] ∧ e.walk h = .error (Ancestor.leaveAll above (.failed f)) := by
  obtain ⟨hfirst, hnode⟩ := hf
  cases hw : e.walk h with
  | ok x =>
    rw [firstFailing_eq_none hw] at hfirst
    cases hfirst
  | error fault =>
    obtain ⟨node', above', made, own, hfirst', hfails, rfl⟩ := exists_firstFailing hw
    cases hfirst.symm.trans hfirst'
    obtain rfl : own = .failed f := by
      rw [walk_eq_fold, hfails.fold_eq] at hnode
      exact Except.error.inj hnode
    exact ⟨hfails.trail_eq_nil ht, rfl⟩

theorem FailsAt.named (hf : FailsAt (walk h) e node above f) (ht : h.Traceless) {g : Failure}
    (hw : e.walk h = .error (.failed g)) : ∀ a ∈ above, a.Named := by
  intro a ha
  by_contra hnot
  rw [(hf.walk_eq ht).2, Ancestor.leaveAll_of_not_named ⟨a, ha, hnot⟩] at hw
  cases hw

/-- The trail is the crumbs that nodes with names leave, the root's first. -/
theorem NamesAncestors.walk_eq {walk : Expr → Except Fault β} (hwalk : NamesAncestors walk)
    (hf : FailsAt walk e node above f) (hnamed : ∀ a ∈ above, a.Named) (crumbs : List Crumb)
    (hcrumbs : crumbs.map some = above.map Ancestor.crumb?) :
    walk e = .error (.failed { f with trail := crumbs.reverse }) := by
  obtain ⟨trail, hw, htrail⟩ := hwalk.named hf hnamed
  rw [hw, ← Ancestor.crumbs_unique htrail hcrumbs, List.reverse_reverse]

theorem map_eq_error {r : Except Fault β} {g : β → γ} {fault : Fault} :
    r.map g = .error fault ↔ r = .error fault := by
  cases r <;> simp [Except.map]

/-- What becomes of the results plays no part. -/
theorem NamesAncestors.map {walk : Expr → Except Fault β} (hwalk : NamesAncestors walk)
    (g : β → γ) : NamesAncestors fun e => (walk e).map g := by
  have hfirst : ∀ e, firstFailing (fun e => (walk e).map g) e = e.firstFailing walk := by
    intro e
    unfold firstFailing
    congr 1
    funext visit
    show (!((walk visit.1).map g).isOk) = !(walk visit.1).isOk
    cases walk visit.1 <;> rfl
  have hfails : ∀ {e node above f}, FailsAt (fun e => (walk e).map g) e node above f →
      FailsAt walk e node above f := by
    intro e node above f hf
    exact ⟨hfirst e ▸ hf.1, map_eq_error.mp hf.2⟩
  refine ⟨fun e => ?_, fun hf => hwalk.fresh (hfails hf), fun hf hnamed => ?_,
    fun hf hnot => map_eq_error.mpr (hwalk.unnamed (hfails hf) hnot), fun hf hf' hw hw' => ?_⟩
  · rw [hfirst, ← hwalk.fails_iff]
    exact exists_congr fun fault => map_eq_error
  · obtain ⟨trail, hw, htrail⟩ := hwalk.named (hfails hf) hnamed
    exact ⟨trail, map_eq_error.mpr hw, htrail⟩
  · exact hwalk.unmarked (hfails hf) (hfails hf') (map_eq_error.mp hw) (map_eq_error.mp hw')

end Walks

end Expr

end Calculator
