import Stencil.Proofs.Yaml.Token
import Stencil.Yaml.Node

namespace Stencil.Yaml.Node

/-! What the structure of a document can fail with: with faults of a text that is no document, and
as its tokens do. -/

section

variable {P : Fault → Prop} {α β : Type}

def State.FailsIn (P : Fault → Prop) (state : State) : Prop := ∀ e ∈ state.tokens.failure?, P e

/-- A reader that fails with the faults of `P` only, where the tokens do. -/
class ReadsIn (P : Fault → Prop) (m : Reader α) : Prop where
  fault : ∀ state, state.FailsIn P → ∀ e, m.run state = .error e → P e
  state : ∀ state, state.FailsIn P → ∀ a after, m.run state = .ok (a, after) → after.FailsIn P

instance (a : α) : ReadsIn P (pure a : Reader α) where
  fault := nofun
  state := by
    intro state h a after heq
    cases heq
    exact h

theorem ReadsIn.bind {m : Reader α} {f : α → Reader β} (hm : ReadsIn P m)
    (hf : ∀ a, ReadsIn P (f a)) : ReadsIn P (m >>= f) where
  fault := by
    intro state h e heq
    rw [StateT.run_bind] at heq
    cases hrun : m.run state with
    | error e' =>
        rw [hrun] at heq
        cases heq
        exact hm.fault state h e hrun
    | ok read =>
        rw [hrun] at heq
        exact (hf read.1).fault _ (hm.state state h _ _ hrun) e heq
  state := by
    intro state h b after heq
    rw [StateT.run_bind] at heq
    obtain ⟨read, hrun, heq⟩ := bind_eq_ok.mp heq
    exact (hf read.1).state _ (hm.state state h _ _ hrun) b after heq

instance {m : Reader α} {f : α → Reader β} [hm : ReadsIn P m] [hf : ∀ a, ReadsIn P (f a)] :
    ReadsIn P (m >>= f) := hm.bind hf

instance {c : Prop} [Decidable c] {m m' : Reader α} [ReadsIn P m] [ReadsIn P m'] :
    ReadsIn P (if c then m else m') := by
  split <;> infer_instance

instance [Unreadable P] (fault : DocumentFault) :
    ReadsIn P (throw (.document fault) : Reader α) where
  fault := by
    intro state h e heq
    cases heq
    exact Unreadable.document fault
  state := nofun

instance [Unreadable P] : ReadsIn P (throw badStructure : Reader α) :=
  inferInstanceAs (ReadsIn P (throw (.document .structure_) : Reader α))

instance [Unreadable P] : ReadsIn P (throw badAnchor : Reader α) :=
  inferInstanceAs (ReadsIn P (throw (.document .alias_) : Reader α))

instance [Unreadable P] (f : α → Reader β) : ReadsIn P (throw badStructure >>= f) where
  fault := by
    intro state h e heq
    cases heq
    exact Unreadable.document _
  state := nofun

instance : ReadsIn P (get : Reader State) where
  fault := nofun
  state := by
    intro state h a after heq
    cases heq
    exact h

theorem readsIn_modify {f : State → State}
    (hf : ∀ state, (f state).tokens.failure? = state.tokens.failure?) :
    ReadsIn P (modify f : Reader PUnit) where
  fault := nofun
  state := by
    intro state h a after heq
    cases heq
    intro e he
    exact h e (hf state ▸ he)

theorem run_peek (state : State) :
    peek.run state =
      match state.tokens.list with
      | t :: _ => .ok (t, state)
      | [] => .error (state.tokens.failure?.getD badStructure) := by
  cases h : state.tokens.list <;> simp [peek, h] <;> rfl

instance [Unreadable P] : ReadsIn P peek where
  fault := by
    intro state h e heq
    rw [run_peek] at heq
    split at heq
    · cases heq
    · cases heq
      cases hfailure : state.tokens.failure? with
      | none => exact Unreadable.document _
      | some e => exact h e hfailure
  state := by
    intro state h a after heq
    rw [run_peek] at heq
    split at heq
    · cases heq
      exact h
    · cases heq

instance [Unreadable P] : ReadsIn P skip := by
  have hdrop : ReadsIn P (modify fun s : State =>
      { s with tokens := { s.tokens with list := s.tokens.list.drop 1 } } : Reader PUnit) :=
    readsIn_modify fun _ => rfl
  unfold skip
  infer_instance

instance [Unreadable P] (p : Token → Bool) : ReadsIn P (skipIf p) := by
  unfold skipIf
  infer_instance

instance [Unreadable P] : ReadsIn P anchorOf? := by
  unfold anchorOf?
  refine .bind inferInstance fun t => ?_
  split <;> infer_instance

instance [Unreadable P] : ReadsIn P tagOf? := by
  unfold tagOf?
  refine .bind inferInstance fun t => ?_
  split <;> infer_instance

instance [Unreadable P] (tag : Option (Option Text × Text)) : ReadsIn P (tagName? tag) := by
  unfold tagName?
  split
  · infer_instance
  · infer_instance
  · refine .bind inferInstance fun state => ?_
    split <;> infer_instance

instance [Unreadable P] : ReadsIn P properties := by
  unfold properties
  infer_instance

instance (anchor : Text × Option Node) :
    ReadsIn P (modify fun s => { s with anchors := anchor :: s.anchors } : Reader PUnit) :=
  readsIn_modify fun _ => rfl

instance [Unreadable P] (anchor : Option Text) : ReadsIn P (declareAnchor anchor) := by
  unfold declareAnchor
  split <;> infer_instance

instance (anchor : Option Text) (n : Node) : ReadsIn P (bindAnchor anchor n) := by
  unfold bindAnchor
  split <;> infer_instance

/-! Nodes: whatever is read of a node inside another one reads so, to any depth. -/

structure NodesReadIn (P : Fault → Prop) (depth : Nat) : Prop where
  node : ∀ block indentless, ReadsIn P (read depth block indentless)
  nodeUnless : ∀ ends block indentless, ReadsIn P (readUnless depth ends block indentless)
  blockItems : ReadsIn P (blockItems depth)
  indentlessItems : ReadsIn P (indentlessItems depth)
  blockEntries : ReadsIn P (blockEntries depth)
  flowItems : ∀ first, ReadsIn P (flowItems depth first)
  flowEntries : ∀ first, ReadsIn P (flowEntries depth first)

theorem nodesReadIn [Unreadable P] (depth : Nat) : NodesReadIn P depth := by
  induction depth with
  | zero =>
      have hnone : ∀ α, ReadsIn P (throw badStructure : Reader α) := fun _ => inferInstance
      exact ⟨fun _ _ => hnone _, fun _ _ _ => hnone _, hnone _, hnone _, hnone _,
        fun _ => hnone _, fun _ => hnone _⟩
  | succ depth ih =>
      obtain ⟨_, _, _, _, _, _, _⟩ := ih
      constructor
      · intro block indentless
        unfold read
        refine .bind inferInstance fun t => ?_
        split
        · refine .bind inferInstance fun _ => .bind inferInstance fun state => ?_
          split <;> infer_instance
        · refine .bind inferInstance fun found => ?_
          dsimp only
          refine .bind inferInstance fun t => ?_
          split
          · infer_instance
          · infer_instance
          · infer_instance
          · split
            · infer_instance
            · split <;> infer_instance
      · intro ends block indentless
        unfold readUnless
        infer_instance
      · unfold Node.blockItems
        infer_instance
      · unfold Node.indentlessItems
        infer_instance
      · unfold Node.blockEntries
        infer_instance
      · intro first
        unfold Node.flowItems
        refine .bind inferInstance fun ended => ?_
        split
        · infer_instance
        · dsimp only
          split
          · refine .bind inferInstance fun divided => ?_
            split <;> infer_instance
          · infer_instance
      · intro first
        unfold Node.flowEntries
        refine .bind inferInstance fun ended => ?_
        split
        · infer_instance
        · dsimp only
          split
          · refine .bind inferInstance fun divided => ?_
            split <;> infer_instance
          · infer_instance

/-! Documents. -/

instance [Unreadable P] (steps : Nat) (versioned : Bool) (handles : List (Text × Text)) :
    ReadsIn P (directives steps versioned handles) := by
  induction steps generalizing versioned handles with
  | zero => exact inferInstanceAs (ReadsIn P (pure handles : Reader _))
  | succ steps ih =>
      rw [directives]
      refine .bind inferInstance fun t => ?_
      split
      · refine .bind inferInstance fun _ => ?_
        split <;> infer_instance
      · infer_instance

instance [Unreadable P] (steps : Nat) : ReadsIn P (skipDocumentEnds steps) := by
  induction steps with
  | zero => exact inferInstanceAs (ReadsIn P (pure () : Reader _))
  | succ steps ih =>
      rw [skipDocumentEnds]
      infer_instance

instance [Unreadable P] (size : Nat) : ReadsIn P (document? size) := by
  obtain ⟨_, _, _, _, _, _, _⟩ := nodesReadIn (P := P) (4 * size + 8)
  have hhandles : ∀ handles, ReadsIn P (modify fun s : State =>
      { s with handles := handles ++ standardHandles } : Reader PUnit) :=
    fun handles => readsIn_modify fun _ => rfl
  unfold document?
  infer_instance

instance [Unreadable P] (size : Nat) : ReadsIn P (single? size) := by
  unfold single?
  refine .bind inferInstance fun n? => ?_
  split <;> infer_instance

end

/-- A text for which there is no tree is no document, or something in it is beyond one. -/
theorem tokenFault_of_ofText? {s : Text} {e : Fault} (h : ofText? s = .error e) :
    TokenFault s e := by
  have hreads : ReadsIn (TokenFault s) (single? (Tokens.ofText s).list.length) := inferInstance
  unfold ofText? at h
  dsimp only at h
  split at h
  · cases h
    exact Unreadable.document .unreadable
  · let start : State := ⟨Tokens.ofText s, standardHandles, []⟩
    have hstart : start.FailsIn (TokenFault s) := fun _ => Tokens.tokenFault_of_failure?
    cases hrun : (single? (Tokens.ofText s).list.length).run start with
    | error e' =>
        rw [hrun] at h
        cases h
        exact hreads.fault start hstart e hrun
    | ok read =>
        rw [hrun] at h
        cases h

end Stencil.Yaml.Node
