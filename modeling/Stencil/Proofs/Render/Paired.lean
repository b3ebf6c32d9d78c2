import Stencil.Proofs.Render.Parts
import Stencil.Proofs.Token.Paired
import Stencil.Proofs.Token.Part

namespace Stencil.Template

open Stencil.Text

/-! Closing braces that stand in pairs stand in pairs after every stage of a render, if what
expressions leave has none. -/

/-! The cleanup. -/

theorem Stray.pairs {scan : Scanner α} (h : Stray scan) : (erasing scan).Pairs := by
  intro s value rest hread
  obtain ⟨⟨a, behind⟩, ha, heq⟩ := Option.map_eq_some_iff.mp hread
  cases heq
  obtain ⟨inside, hinside, rfl⟩ := eq_mark_of_strayDirective (h s a rest ha)
  refine ⟨.nil, '{', '{' :: (inside ++ ['}', '}']), by decide, ?_, rfl⟩
  exact .cons (by decide) ((Paired.of_unclosed hinside).append (.pair .nil))

theorem Mending.pairs {scan : Scanner Text} (h : Mending scan) : scan.Pairs := by
  intro s value rest hread
  obtain ⟨dropped, kept, rfl, rfl, -, hdropped, hkept⟩ := h s value rest hread
  have hunclosed : ∀ kept ∈ [[], ['<'], ['\n']], Text.Unclosed kept := by decide
  have hvalue : Text.Unclosed ('>' :: kept) :=
    List.forall_mem_cons.mpr ⟨by decide, hunclosed kept hkept⟩
  refine ⟨.of_unclosed hvalue, '>', dropped ++ kept, by decide, ?_, rfl⟩
  exact .of_unclosed (List.forall_mem_append.mpr ⟨hdropped, hunclosed kept hkept⟩)

theorem pairs_rewritings : ∀ scan ∈ rewritings, scan.Pairs :=
  forall_rewritings (fun scan hmem => (stray_strays scan hmem).pairs)
    fun scan hmem => (mending_mendings scan hmem).pairs

theorem paired_rewrite {scans : List (Scanner Text)} (hscans : ∀ scan ∈ scans, scan.Pairs)
    {s : Text} (hs : s.Paired) : (Scanner.rewrite scans s).Paired := by
  induction scans generalizing s with
  | nil => exact hs
  | cons scan scans ih =>
      obtain ⟨hscan, hrest⟩ := List.forall_mem_cons.mp hscans
      exact ih hrest (hscan.replace hs)

theorem paired_settle {s : Text} (hs : s.Paired) : (settle s).Paired := by
  have hpass : ∀ s : Text, s.Paired → (cleanupPass s).Paired := by
    intro s hs
    rw [cleanupPass_eq_rewrite]
    exact paired_rewrite pairs_rewritings hs
  exact settle_induct hpass (hpass s hs)

/-! The parts of a block. -/

structure BlockReading.Paired (r : BlockReading) : Prop where
  first : r.first.Paired
  divider : (r.divider?.getD []).Paired
  second : r.second.Paired

theorem BlockReading.Paired.add {r : BlockReading} (hr : r.Paired) {s : Text} (hs : s.Paired) :
    (r.add s).Paired := by
  unfold BlockReading.add
  split
  · exact ⟨hr.first, hr.divider, hr.second.append hs⟩
  · exact ⟨hr.first.append hs, hr.divider, hr.second⟩

theorem BlockReading.Paired.divide {r : BlockReading} (hr : r.Paired) (depth : Nat)
    {before divider : Text} (hbefore : before.Paired) (hdivider : divider.Paired) :
    (r.divide depth before divider).Paired := by
  unfold BlockReading.divide
  split
  · have hadd := hr.add hbefore
    exact ⟨hadd.first, hdivider, hadd.second⟩
  · exact hr.add (hbefore.append hdivider)

structure Block.Paired (b : Block) : Prop where
  first : b.first.Paired
  second : b.second.Paired
  text : b.text.Paired
  after : b.after.Paired

theorem BlockKind.paired_readBlock? {kind : BlockKind} (hkind : kind ≠ .block) {depth : Nat}
    {read : BlockReading} {s : Text} {b : Block} (hread : read.Paired) (hs : s.Paired)
    (h : kind.readBlock? depth read s = some b) : b.Paired := by
  -- Where a mark is read both sides of it are in pairs.
  have hmark : ∀ {s : Text} {c : Found Unit s} {m : Found Mark c.before},
      kind.closer.find? s = some c → kind.mark? c.before = some m → s.Paired →
        m.before.Paired ∧ m.matched.Paired ∧
          Text.Paired (s.drop (c.before.length - m.after.length)) := by
    intro s c m hc hm hs
    obtain ⟨inside, hinside, hmatched, hbefore⟩ := exists_mark_of_mark? hkind hm
    rw [← hmatched] at hbefore
    have hsplit := append_drop_of_mark (stray_closer.eq_append_of_find? hc) hbefore
    rw [← hsplit, List.append_assoc, hmatched] at hs
    obtain ⟨hfront, hrest⟩ := hs.of_append_mark hinside
    exact ⟨hfront, hmatched ▸ .mark hinside, hrest⟩
  have hcloser : ∀ {s : Text} {c : Found Unit s}, kind.closer.find? s = some c → s.Paired →
      c.before.Paired ∧ c.matched.Paired ∧ c.after.Paired := by
    intro s c hc hs
    obtain ⟨inside, hinside, hmatched, hsplit⟩ := stray_closer.exists_mark_of_find? hc
    rw [hsplit] at hs
    obtain ⟨hfront, hrest⟩ := hs.of_append_mark hinside
    exact ⟨hfront, hmatched ▸ .mark hinside, hrest⟩
  fun_induction kind.readBlock? depth read s with
  | case1 => cases h
  | case2 depth read s c hc m hm rest _ ih =>
      obtain ⟨hbefore, hmatched, hrest⟩ := hmark hc hm hs
      exact ih (hread.add (hbefore.append hmatched)) hrest h
  | case3 depth read s c hc m hm rest _ ih =>
      obtain ⟨hbefore, hmatched, hrest⟩ := hmark hc hm hs
      exact ih (hread.divide depth hbefore hmatched) hrest h
  | case4 read s c hc _ read' =>
      obtain ⟨hbefore, hmatched, hafter⟩ := hcloser hc hs
      have hwhole : read'.Paired := hread.add hbefore
      cases h
      exact ⟨hwhole.first, hwhole.second,
        ((hwhole.first.append hwhole.divider).append hwhole.second).append hmatched, hafter⟩
  | case5 read s c hc _ depth ih =>
      obtain ⟨hbefore, hmatched, hafter⟩ := hcloser hc hs
      exact ih (hread.add (hbefore.append hmatched)) hafter h

theorem BlockKind.paired_block? {kind : BlockKind} (hkind : kind ≠ .block) {s : Text} {b : Block}
    (hs : s.Paired) (h : kind.block? s = some b) : b.Paired := by
  have hstart : BlockReading.start.Paired := ⟨.nil, .nil, .nil⟩
  exact paired_readBlock? hkind hstart hs h

/-! The stages. -/

/-- What a stage makes of pairs are pairs, if it makes pairs of every directive and of what follows
it. -/
theorem paired_of_drives {scan : Scanner α} (hscan : Stray scan)
    {run : Text → Except Fault Text} {act : Text → α → Text → Except Fault Text}
    (hrun : scan.Drives run act)
    (hact : ∀ {inside after out : Text} {value : α}, inside.Unclosed → after.Paired →
      scan (mark inside ++ after) = some (value, after) →
      (∀ {t out : Text}, t.length ≤ after.length → t.Paired → run t = .ok out → out.Paired) →
      act (mark inside) value after = .ok out → out.Paired)
    {s out : Text} (hs : s.Paired) (h : run s = .ok out) : out.Paired := by
  induction hlength : s.length using Nat.strongRecOn generalizing s out with
  | ind n ih =>
      rw [hrun s] at h
      cases hcut : scan.cut? s with
      | none =>
          rw [hcut] at h
          cases h
          exact hs
      | some cut =>
          rw [hcut] at h
          have hlt := Scanner.length_cut? hcut
          obtain ⟨inside, hinside, hmatched, rfl, hread⟩ := hscan.eq_mark_of_cut? hcut
          obtain ⟨hbefore, hafter⟩ := hs.of_append_mark hinside
          dsimp only at h
          obtain ⟨behind, hbehind, rfl⟩ := map_eq_ok.mp h
          rw [hmatched] at hbehind
          refine hbefore.append (hact hinside hafter hread (fun hle ht hout => ?_) hbehind)
          exact ih _ (by omega) ht hout rfl

/-- In the contexts of `K` expressions leave no closing brace, and loops open contexts of `K`. -/
structure Steers (tools : Toolbox) (K : Context → Prop) : Prop where
  substitution : ∀ {ctx : Context} {inside out : Text}, K ctx → inside.Unclosed →
    (substitution tools ctx inside).result = .ok out → out.Unclosed
  turn : ∀ {ctx : Context} {source : Text} {v : Value}, K ctx → source.Unclosed →
    (evaluate tools ctx source).result = .ok v →
      ∀ name, ∀ scope ∈ turnScopes name v, K (ctx.child scope)

def PairsIn (K : Context → Prop) (inner : Inner) : Prop :=
  ∀ ⦃ctx : Context⦄ ⦃s out : Text⦄, K ctx → s.Paired → (inner ctx s).result = .ok out → out.Paired

section

variable {tools : Toolbox} {K : Context → Prop} {ctx : Context} {s out : Text}

theorem unclosed_of_directive {inside value after : Text} (hinside : inside.Unclosed)
    (h : directive (mark inside ++ after) = some (value, after)) : value.Unclosed := by
  rw [directive_mark hinside] at h
  obtain ⟨value', hvalue, heq⟩ := Option.map_eq_some_iff.mp h
  cases heq
  exact hinside.of_sublist (infix_of_insideText? hvalue).sublist

theorem paired_callsOf (hsteers : Steers tools K) (hctx : K ctx) (hs : s.Paired)
    (h : callsOf tools ctx s = .ok out) : out.Paired := by
  refine paired_of_drives Stray.directive callsOf_drives ?_ hs h
  intro inside after out value hinside hafter hread ih hact
  have hvalue := unclosed_of_directive hinside hread
  have hkept : ∀ {t out : Text}, t.length ≤ after.length → t.Paired →
      (mark inside ++ ·) <$> callsOf tools ctx t = .ok out → out.Paired := by
    intro t out hle ht hout
    obtain ⟨behind, hbehind, rfl⟩ := map_eq_ok.mp hout
    exact (Paired.mark hinside).append (ih hle ht hbehind)
  unfold callsAt at hact
  split at hact
  · next head rest hhead =>
      obtain ⟨inner, hinner, hmark, hloop⟩ := exists_mark_of_loopHead hhead
      have hkind := kind_ne_block_of_loopIn hloop
      split at hact
      · next b hblock =>
          have hb := BlockKind.paired_block? hkind hafter hblock
          have hlength := BlockKind.length_block? _ _ hblock
          have hle := b.length_after_le
          obtain ⟨behind, hbehind, rfl⟩ := map_eq_ok.mp hact
          exact ((Paired.mark hinside).append hb.text).append
            (ih (by omega) hb.after hbehind)
      · exact hkept (Nat.le_refl _) hafter hact
  · split at hact
    · obtain ⟨text, htext, hact⟩ := bind_eq_ok.mp hact
      obtain ⟨behind, hbehind, rfl⟩ := map_eq_ok.mp hact
      have hunclosed := hsteers.substitution hctx hvalue htext
      exact (Paired.of_unclosed hunclosed).append (ih (Nat.le_refl _) hafter hbehind)
    · exact hkept (Nat.le_refl _) hafter hact

theorem paired_variablesOf (hsteers : Steers tools K) (hctx : K ctx) (hs : s.Paired)
    (h : variablesOf tools ctx s = .ok out) : out.Paired := by
  refine paired_of_drives Stray.directive variablesOf_drives ?_ hs h
  intro inside after out value hinside hafter hread ih hact
  have hvalue := unclosed_of_directive hinside hread
  unfold variablesAt at hact
  dsimp only at hact
  split at hact
  · obtain ⟨behind, hbehind, rfl⟩ := map_eq_ok.mp hact
    exact (Paired.mark hinside).append (ih (Nat.le_refl _) hafter hbehind)
  · obtain ⟨text, htext, hact⟩ := bind_eq_ok.mp hact
    obtain ⟨behind, hbehind, rfl⟩ := map_eq_ok.mp hact
    have hunclosed := hsteers.substitution hctx hvalue htext
    exact (Paired.of_unclosed hunclosed).append (ih (Nat.le_refl _) hafter hbehind)

variable {inner : Inner} [hsteady : ∀ ctx s, Eval.Steady (inner ctx s)]

theorem paired_renderLoop (hsteers : Steers tools K) (hinner : PairsIn K inner) (hctx : K ctx)
    {head : LoopHead} {body : Text} (hsource : head.source.Unclosed) (hbody : body.Paired)
    (h : (renderLoop tools inner ctx head body).result = .ok out) : out.Paired := by
  rw [renderLoop_eq_mapM] at h
  obtain ⟨v, hv, h⟩ := bind_eq_ok.mp h
  obtain ⟨turns, hturns, rfl⟩ := map_eq_ok.mp h
  refine Paired.flatten (forall_of_mapM_eq_ok hturns fun scope hscope t ht => ?_)
  exact hinner (hsteers.turn hctx hsource hv head.name scope hscope) hbody ht

theorem paired_loopsOf (hsteers : Steers tools K) (hinner : PairsIn K inner) (hctx : K ctx)
    (hs : s.Paired) (h : loopsOf tools inner ctx s = .ok out) : out.Paired := by
  refine paired_of_drives Stray.loopHead loopsOf_drives ?_ hs h
  intro inside after out head hinside hafter hread ih hact
  rw [loopHead_mark hinside] at hread
  obtain ⟨head', hloop, heq⟩ := Option.map_eq_some_iff.mp hread
  cases heq
  unfold loopsAt at hact
  split at hact
  · obtain ⟨behind, hbehind, rfl⟩ := map_eq_ok.mp hact
    exact (Paired.mark hinside).append (ih (Nat.le_refl _) hafter hbehind)
  · next b hblock =>
      have hb := BlockKind.paired_block? (kind_ne_block_of_loopIn hloop) hafter hblock
      have hlength := BlockKind.length_block? _ _ hblock
      have hle := b.length_after_le
      obtain ⟨text, htext, hact⟩ := bind_eq_ok.mp hact
      obtain ⟨behind, hbehind, rfl⟩ := map_eq_ok.mp hact
      have hsource := hinside.of_sublist (infix_of_loopIn hloop).sublist
      have hpaired := paired_renderLoop hsteers hinner hctx hsource hb.first htext
      exact hpaired.append (ih (by omega) hb.after hbehind)

theorem paired_conditionalsOf (hinner : PairsIn K inner) (hctx : K ctx) (hs : s.Paired)
    (h : conditionalsOf tools inner ctx s = .ok out) : out.Paired := by
  refine paired_of_drives (Stray.operand (by decide)) conditionalsOf_drives ?_ hs h
  intro inside after out condition hinside hafter hread ih hact
  unfold conditionalsAt at hact
  split at hact
  · obtain ⟨behind, hbehind, rfl⟩ := map_eq_ok.mp hact
    exact (Paired.mark hinside).append (ih (Nat.le_refl _) hafter hbehind)
  · next b hblock =>
      have hb := BlockKind.paired_block? (by decide) hafter hblock
      have hlength := BlockKind.length_block? _ _ hblock
      have hle := b.length_after_le
      obtain ⟨v, hv, hact⟩ := bind_eq_ok.mp hact
      obtain ⟨text, htext, hact⟩ := bind_eq_ok.mp hact
      obtain ⟨behind, hbehind, rfl⟩ := map_eq_ok.mp hact
      have hbranch : Text.Paired (if v.truthy then b.first else b.second) := by
        split
        · exact hb.first
        · exact hb.second
      exact (hinner hctx hbranch htext).append (ih (by omega) hb.after hbehind)

theorem pairsIn_level (hsteers : Steers tools K) (hinner : PairsIn K inner) :
    PairsIn K (level tools inner) := by
  intro ctx s out hctx hs h
  rw [level_result] at h
  obtain ⟨s₁, h₁, h⟩ := bind_eq_ok.mp h
  obtain ⟨s₂, h₂, h⟩ := bind_eq_ok.mp h
  obtain ⟨s₃, h₃, h⟩ := bind_eq_ok.mp h
  obtain ⟨s₄, h₄, rfl⟩ := map_eq_ok.mp h
  have hcalls := paired_callsOf hsteers hctx hs h₁
  have hloops := paired_loopsOf hsteers hinner hctx hcalls h₂
  have hconditionals := paired_conditionalsOf hinner hctx hloops h₃
  exact paired_settle (paired_variablesOf hsteers hctx hconditionals h₄)

omit hsteady in
theorem pairsIn_renderWithin (hsteers : Steers tools K) (depth : Nat) :
    PairsIn K (renderWithin tools depth) := by
  induction depth with
  | zero =>
      intro ctx s out _ _ h
      cases h
  | succ depth ih =>
      rw [renderWithin_succ]
      exact pairsIn_level hsteers ih

omit hsteady in
theorem paired_render (hsteers : Steers tools K) (hctx : K ctx) (hs : s.Paired)
    (h : (render tools ctx s).result = .ok out) : out.Paired :=
  pairsIn_renderWithin hsteers (depthFor s) hctx hs h

end

end Stencil.Template
