import Mathlib.Data.Finset.Card
import Mathlib.Data.Finset.SDiff

/-! Traversals with a stack of pending nodes and a set of visited ones. Visiting a node may
fail, changes a state and pushes more nodes. Nothing is assumed about the nodes it pushes but
that they come from a finite set, so the graph may have cycles. -/
namespace K8sOps.Worklist
variable {ν σ ε : Type} [DecidableEq ν]

/-- The pushed nodes of a visit, in the order in which they are pushed, and its state. -/
abbrev Visit (ν σ ε : Type) := ν → σ → Except ε (List ν × σ)

/-- Pop the node that was pushed last, until none is left or a visit fails. The visited nodes
are returned, the last one first, with the final state or the error. -/
def run (visit : Visit ν σ ε) : Nat → List ν → List ν → σ → Option (List ν × Except ε σ)
  | 0, _, _, _ => none
  | _ + 1, [], visited, state => some (visited, .ok state)
  | fuel + 1, node :: pending, visited, state =>
    if node ∈ visited then run visit fuel pending visited state
    else
      match visit node state with
      | .error error => some (node :: visited, .error error)
      | .ok (more, state) => run visit fuel (more.reverse ++ pending) (node :: visited) state

theorem run_mono {visit : Visit ν σ ε}
    (done : run visit fuel pending visited state = some result) (more : Nat) :
    run visit (fuel + more) pending visited state = some result := by
  induction fuel generalizing pending visited state with
  | zero => cases done
  | succ fuel ih =>
    rw [Nat.succ_add_eq_add_succ, Nat.add_succ]
    cases pending with
    | nil => exact done
    | cons node pending =>
      rw [run] at done ⊢
      split
      next seen =>
        rw [if_pos seen] at done
        exact ih done
      next fresh =>
        rw [if_neg fresh] at done
        cases visited : visit node state with
        | error error =>
          rw [visited] at done
          exact done
        | ok result =>
          rw [visited] at done
          exact ih done

/-- A traversal of a finite set of nodes ends. -/
theorem run_terminates {visit : Visit ν σ ε} (nodes : Finset ν)
    (inside : ∀ node state more after, visit node state = .ok (more, after) →
      ∀ other ∈ more, other ∈ nodes)
    (pending visited : List ν) (start : ∀ node ∈ pending, node ∈ nodes) (state : σ) :
    ∃ fuel result, run visit fuel pending visited state = some result := by
  -- Either a node of the set becomes visited, or the stack gets shorter.
  induction remaining : (nodes \ visited.toFinset).card using Nat.strong_induction_on
    generalizing pending visited state with
  | _ bound shrinks =>
    induction pending generalizing state with
    | nil => exact ⟨1, _, rfl⟩
    | cons node pending ih =>
      by_cases seen : node ∈ visited
      · obtain ⟨fuel, result, done⟩ :=
          ih (fun other member => start other (List.mem_cons_of_mem _ member)) state
        refine ⟨fuel + 1, result, ?_⟩
        rw [run, if_pos seen, done]
      · cases moved : visit node state with
        | error error =>
          refine ⟨1, (node :: visited, .error error), ?_⟩
          rw [run, if_neg seen, moved]
        | ok step =>
          obtain ⟨more, after⟩ := step
          have fewer : (nodes \ (node :: visited).toFinset).card < bound := by
            rw [← remaining, List.toFinset_cons]
            apply Finset.card_lt_card
            refine ⟨Finset.sdiff_subset_sdiff (Finset.Subset.refl _) (Finset.subset_insert _ _),
              fun same => ?_⟩
            have kept : node ∈ nodes \ visited.toFinset := by
              simp [seen, start node List.mem_cons_self]
            exact (Finset.mem_sdiff.mp (same kept)).2 (Finset.mem_insert_self _ _)
          have begun : ∀ other ∈ more.reverse ++ pending, other ∈ nodes := by
            intro other member
            rcases List.mem_append.mp member with new | old
            · exact inside node state more after moved other (List.mem_reverse.mp new)
            · exact start other (List.mem_cons_of_mem _ old)
          obtain ⟨fuel, result, done⟩ := shrinks _ fewer _ (node :: visited) begun after rfl
          refine ⟨fuel + 1, result, ?_⟩
          rw [run, if_neg seen, moved]
          exact done

/-- What popping a visited node and visiting a new one preserve holds at the end, with no
node pending. -/
theorem run_invariant {visit : Visit ν σ ε} (holds : List ν → List ν → σ → Prop)
    (skip : ∀ node pending visited state, node ∈ visited → holds (node :: pending) visited state →
      holds pending visited state)
    (step : ∀ node pending visited state more after, node ∉ visited →
      holds (node :: pending) visited state →
      visit node state = .ok (more, after) →
      holds (more.reverse ++ pending) (node :: visited) after)
    (begun : holds pending visited state)
    (done : run visit fuel pending visited state = some (nodes, .ok final)) :
    holds [] nodes final := by
  induction fuel generalizing pending visited state with
  | zero => cases done
  | succ fuel ih =>
    cases pending with
    | nil =>
      cases done
      exact begun
    | cons node pending =>
      rw [run] at done
      split at done
      next seen => exact ih (skip _ _ _ _ seen begun) done
      next fresh =>
        split at done
        next => cases done
        next more after moved => exact ih (step _ _ _ _ _ _ fresh begun moved) done

/-- Nothing is visited twice, whether the traversal ends or fails. -/
theorem run_nodup {visit : Visit ν σ ε} (distinct : visited.Nodup)
    (done : run visit fuel pending visited state = some (nodes, result)) : nodes.Nodup := by
  induction fuel generalizing pending visited state with
  | zero => cases done
  | succ fuel ih =>
    cases pending with
    | nil =>
      cases done
      exact distinct
    | cons node pending =>
      rw [run] at done
      split at done
      next => exact ih distinct done
      next fresh =>
        have more : (node :: visited).Nodup := List.nodup_cons.mpr ⟨fresh, distinct⟩
        split at done
        next =>
          cases done
          exact more
        next => exact ih more done

end K8sOps.Worklist
