import Mathlib.Data.List.TakeWhile
import Stencil.Function.Standard
import Stencil.Proofs.Eval.Result
import Stencil.Proofs.Text.Blank

namespace Stencil

/-! Absolute addresses: those that name a scheme, and those that are left as they are. -/

namespace Url

variable {default s : Text} {u : Url}

theorem scheme_of_splitWith (h : splitWith default s = .ok u) :
    u.scheme = (splitScheme default ((s.dropWhile fun c => c.toNat ≤ 32).filter
      fun c => c != '\t' && c != '\r' && c != '\n')).1 := by
  unfold splitWith at h
  extract_lets t at h
  split at h
  next scheme rest hscheme =>
  change u.scheme = (splitScheme default t).1
  rw [hscheme]
  split at h
  next authority behind hauthority =>
  cases hgood : isAuthority authority with
  | false =>
      rw [hgood] at h
      cases h
  | true =>
      rw [hgood] at h
      cases h
      rfl

theorem head?_of_scheme (h : split s = .ok u) (hscheme : u.scheme ≠ []) :
    s.head? ≠ some '/' := by
  intro hslash
  obtain ⟨rest, rfl⟩ := List.head?_eq_some_iff.mp hslash
  apply hscheme
  rw [scheme_of_splitWith h, List.dropWhile_cons_of_neg (by decide),
    List.filter_cons_of_pos (by decide)]
  unfold splitScheme
  split
  · next scheme rest hscheme =>
      have hhead : scheme.head? = some '/' := by
        have hfront : (partition ':' _).1 = scheme := congrArg Prod.fst hscheme
        rw [← hfront]
        rfl
      rw [hhead]
      rfl
  · rfl

end Url

namespace Function

/-! Addresses that are left as they are. -/

def marks : List String := ["http://", "https://", "//"]

def Marked (url : Text) : Prop := ∃ mark ∈ marks, mark.toList <+: url

theorem isAbsolute_iff {url : Text} : isAbsolute url = true ↔ Marked url := by
  simp only [isAbsolute, Marked, marks, List.any_eq_true, List.isPrefixOf_iff_prefix]

theorem slash_beside_slash :
    ∀ mark ∈ marks, ∀ k < mark.toList.length, mark.toList[k]? = some '/' →
      k = 0 ∨ mark.toList[k - 1]? = some '/' ∨ mark.toList[k + 1]? = some '/' := by
  decide

theorem marked_append_iff {s t : Text} (hs : s ≠ []) (hlast : s.getLast? ≠ some '/')
    (ht : t.head? ≠ some '/') : Marked (s ++ '/' :: t) ↔ Marked s := by
  constructor
  · rintro ⟨mark, hmark, hprefix⟩
    rcases List.prefix_or_prefix_of_prefix hprefix (List.prefix_append s ('/' :: t)) with h | h
    · exact ⟨mark, hmark, h⟩
    · obtain ⟨rest, hrest⟩ := h
      have hbeside := slash_beside_slash mark hmark s.length
      rw [← hrest] at hprefix hbeside
      cases rest with
      | nil =>
          rw [List.append_nil] at hrest
          exact ⟨mark, hmark, hrest ▸ List.prefix_rfl⟩
      | cons c rest =>
          -- the mark would go on behind `s` with a slash that stands alone
          obtain ⟨rfl, hbehind⟩ :=
            List.cons_prefix_cons.mp ((List.prefix_append_right_inj s).mp hprefix)
          have hne : 0 < s.length := List.length_pos_iff.mpr hs
          rcases hbeside (by simp) (by simp) with hzero | hbefore | hafter
          · omega
          · rw [List.getElem?_append_left (by omega), ← List.getLast?_eq_getElem?] at hbefore
            exact absurd hbefore hlast
          · rw [List.getElem?_append_right (by omega), Nat.add_sub_cancel_left] at hafter
            have hhead : rest.head? = some '/' := by rwa [List.head?_eq_getElem?]
            obtain ⟨rest, rfl⟩ := List.head?_eq_some_iff.mp hhead
            obtain ⟨behind, rfl⟩ := hbehind
            exact absurd rfl ht
  · rintro ⟨mark, hmark, hprefix⟩
    exact ⟨mark, hmark, hprefix.trans (List.prefix_append _ _)⟩

/-! Addresses behind a root. -/

def stripped (root : Text) : Text := root.dropWhileEnd (· == '/')

section

variable {root u : Text}

theorem joinRoot_of_head (hroot : root ≠ []) (hu : u.head? = some '/') :
    Markup.joinRoot root u = stripped root ++ u := by
  have hsome : root.isEmpty = false := by simpa using hroot
  unfold Markup.joinRoot
  rw [hsome, if_neg Bool.false_ne_true, if_pos (beq_iff_eq.mpr hu)]
  rfl

theorem joinRoot_of_head_ne (hroot : root ≠ []) (hu : u.head? ≠ some '/') :
    Markup.joinRoot root u = stripped root ++ '/' :: u := by
  have hsome : root.isEmpty = false := by simpa using hroot
  unfold Markup.joinRoot
  rw [hsome, if_neg Bool.false_ne_true, if_neg (by simpa using hu)]
  rfl

theorem joinRoot_eq (hroot : root ≠ []) (hu : ¬Marked u) :
    ∃ t, t.head? ≠ some '/' ∧ Markup.joinRoot root u = stripped root ++ '/' :: t := by
  by_cases hslash : u.head? = some '/'
  · rw [joinRoot_of_head hroot hslash]
    obtain ⟨t, rfl⟩ := List.head?_eq_some_iff.mp hslash
    refine ⟨t, ?_, rfl⟩
    intro ht
    obtain ⟨t, rfl⟩ := List.head?_eq_some_iff.mp ht
    exact hu ⟨"//", by decide, t, rfl⟩
  · exact ⟨u, hslash, joinRoot_of_head_ne hroot hslash⟩

theorem joinRoot_eq_self_iff (hroot : root ≠ []) :
    Markup.joinRoot root u = u ↔ stripped root = [] ∧ u.head? = some '/' := by
  by_cases hslash : u.head? = some '/'
  · rw [joinRoot_of_head hroot hslash, List.append_left_eq_self]
    exact (and_iff_left hslash).symm
  · rw [joinRoot_of_head_ne hroot hslash]
    refine iff_of_false (fun heq => ?_) fun h => hslash h.2
    have hlength := congrArg List.length heq
    rw [List.length_append, List.length_cons] at hlength
    omega

def rooted (root u : Text) : Text := if isAbsolute u then u else Markup.joinRoot root u

theorem rooted_of_marked (hu : Marked u) : rooted root u = u := if_pos (isAbsolute_iff.mpr hu)

theorem rooted_of_unmarked (hu : ¬Marked u) : rooted root u = Markup.joinRoot root u :=
  if_neg (mt isAbsolute_iff.mp hu)

theorem rooted_eq_self_iff (hu : u.head? ≠ some '/') :
    rooted root u = u ↔ Marked u ∨ root = [] := by
  by_cases hmarked : Marked u
  · exact iff_of_true (rooted_of_marked hmarked) (.inl hmarked)
  rw [rooted_of_unmarked hmarked, or_iff_right hmarked]
  by_cases hroot : root = []
  · subst hroot
    exact iff_of_true rfl rfl
  · rw [joinRoot_eq_self_iff hroot]
    exact iff_of_false (fun h => hu h.2) hroot

/-- A second time changes nothing where the address behind the root is one that is left as it is. -/
theorem rooted_twice_iff :
    rooted root (rooted root u) = rooted root u ↔
      Marked u ∨ stripped root = [] ∨ Marked (stripped root) := by
  by_cases hu : Marked u
  · rw [rooted_of_marked hu, rooted_of_marked hu]
    exact iff_of_true rfl (.inl hu)
  rw [rooted_of_unmarked hu, or_iff_right hu]
  by_cases hroot : root = []
  · subst hroot
    exact iff_of_true (rooted_of_unmarked hu) (.inl rfl)
  obtain ⟨t, ht, honce⟩ := joinRoot_eq hroot hu
  rw [honce]
  by_cases hstripped : stripped root = []
  · rw [hstripped, List.nil_append]
    refine iff_of_true ?_ (.inl rfl)
    by_cases hmarked : Marked ('/' :: t)
    · exact rooted_of_marked hmarked
    · rw [rooted_of_unmarked hmarked, joinRoot_eq_self_iff hroot]
      exact ⟨hstripped, rfl⟩
  · have hmarked := marked_append_iff hstripped Text.getLast?_dropWhileEnd_ne ht
    rw [or_iff_right hstripped, ← hmarked]
    constructor
    · intro htwice
      refine Classical.byContradiction fun hunmarked => ?_
      rw [rooted_of_unmarked hunmarked, joinRoot_eq_self_iff hroot] at htwice
      exact hstripped htwice.1
    · exact rooted_of_marked

theorem marked_stripped_iff {scheme : String} (hscheme : scheme ∈ ["http://", "https://"])
    (rest : Text) :
    stripped (scheme.toList ++ rest) ≠ [] ∧
      (Marked (stripped (scheme.toList ++ rest)) ↔ ∃ c ∈ rest, c ≠ '/') := by
  have hmark : scheme ∈ marks := List.mem_append_left ["//"] hscheme
  have hbare : stripped scheme.toList ≠ [] ∧ ¬Marked (stripped scheme.toList) := by
    revert scheme
    unfold Marked
    decide
  have hnil : (Text.dropWhileEnd (· == '/') rest).isEmpty = true ↔ ∀ c ∈ rest, c = '/' := by
    unfold Text.dropWhileEnd
    rw [List.isEmpty_reverse, List.isEmpty_iff, List.dropWhile_eq_nil_iff]
    simp
  unfold stripped at hbare ⊢
  rw [Text.dropWhileEnd_append]
  by_cases hslashes : ∀ c ∈ rest, c = '/'
  · rw [if_pos (hnil.mpr hslashes)]
    exact ⟨hbare.1, iff_of_false hbare.2 (by simpa using hslashes)⟩
  · rw [if_neg (mt hnil.mp hslashes)]
    refine ⟨List.append_ne_nil_of_right_ne_nil _ fun heq => ?_,
      iff_of_true ⟨scheme, hmark, List.prefix_append _ _⟩ (by simpa using hslashes)⟩
    exact hslashes (hnil.mp (List.isEmpty_iff.mpr heq))

end

/-! The registered functions. -/

section

variable {now : Moment} {u : Text} {base : Value}

theorem call_absoluteUrl :
    call standard now "absolute_url".toList [.text u, base] =
      if isAbsolute u then .ok (.text u)
      else do return .text (Markup.joinRoot (← base.joined) u) := by rfl

theorem call_relativeUrl :
    call standard now "relative_url".toList [.text u, base] =
      if isAbsolute u then .ok (.text u)
      else do
        let parts ← Url.split (← base.joined)
        return .text (stripped parts.path ++ '/' :: u.dropWhile (· == '/')) := by rfl

theorem call_isAbsoluteUrl :
    call standard now "is_absolute_url".toList [.text u] =
      do return .bool !(← Url.split u).scheme.isEmpty := by rfl

theorem head?_of_isAbsoluteUrl
    (h : call standard now "is_absolute_url".toList [.text u] = .ok (.bool true)) :
    u.head? ≠ some '/' := by
  rw [call_isAbsoluteUrl] at h
  obtain ⟨parts, hparts, h⟩ := bind_eq_ok.mp h
  apply Url.head?_of_scheme hparts
  intro hempty
  rw [hempty] at h
  cases h

theorem absoluteUrl_of_text (root : Text) :
    call standard now "absolute_url".toList [.text u, .text root] = .ok (.text (rooted root u)) := by
  rw [call_absoluteUrl]
  unfold rooted
  split <;> rfl

theorem absoluteUrl_eq_self_iff (hu : u.head? ≠ some '/') :
    call standard now "absolute_url".toList [.text u, base] = .ok (.text u) ↔
      Marked u ∨ base.joined = .ok [] := by
  rw [call_absoluteUrl]
  by_cases hmarked : Marked u
  · rw [if_pos (isAbsolute_iff.mpr hmarked)]
    exact iff_of_true rfl (.inl hmarked)
  · rw [if_neg (mt isAbsolute_iff.mp hmarked), or_iff_right hmarked]
    cases hbase : base.joined with
    | error e => exact iff_of_false (fun h => nomatch h) fun h => nomatch h
    | ok root =>
        have hself : rooted root u = u ↔ Marked u ∨ root = [] := rooted_eq_self_iff hu
        rw [rooted_of_unmarked hmarked, or_iff_right hmarked] at hself
        change Except.ok (Value.text (Markup.joinRoot root u)) = _ ↔ _
        rw [Except.ok.injEq, Value.text.injEq, Except.ok.injEq, hself]

theorem relativeUrl_eq_self_iff (hu : u.head? ≠ some '/') :
    call standard now "relative_url".toList [.text u, base] = .ok (.text u) ↔ Marked u := by
  rw [call_relativeUrl]
  constructor
  · intro h
    refine Classical.byContradiction fun hmarked => ?_
    rw [if_neg (mt isAbsolute_iff.mp hmarked)] at h
    obtain ⟨root, -, h⟩ := bind_eq_ok.mp h
    obtain ⟨parts, -, h⟩ := bind_eq_ok.mp h
    have hwhole : u.dropWhile (· == '/') = u := by
      rw [List.dropWhile_eq_self_iff]
      intro hpos
      rw [beq_iff_eq]
      intro hslash
      exact hu (by rw [List.head?_eq_getElem?, List.getElem?_eq_getElem hpos, hslash])
    rw [hwhole] at h
    have hlength := congrArg List.length (Value.text.inj (Except.ok.inj h))
    rw [List.length_append, List.length_cons] at hlength
    omega
  · exact fun hmarked => if_pos (isAbsolute_iff.mpr hmarked)

end

theorem isAbsoluteUrl_mail (now : Moment) :
    call standard now "is_absolute_url".toList [.text "mailto:me@x.org".toList] =
      .ok (.bool true) := by
  rw [call_isAbsoluteUrl]
  with_unfolding_all rfl

/-- Addresses that name a scheme are left as they are only where they begin in one of three ways,
and a second time changes nothing only behind a root that has more than slashes. -/
theorem absolute_addresses (now : Moment) (u : Text) (base : Value) :
    (Marked u →
      call standard now "absolute_url".toList [.text u, base] = .ok (.text u) ∧
        call standard now "relative_url".toList [.text u, base] = .ok (.text u)) ∧
    (call standard now "is_absolute_url".toList [.text u] = .ok (.bool true) →
      (call standard now "absolute_url".toList [.text u, base] = .ok (.text u) ↔
        Marked u ∨ base.joined = .ok []) ∧
      (call standard now "relative_url".toList [.text u, base] = .ok (.text u) ↔ Marked u)) ∧
    ∀ scheme ∈ ["http://", "https://"], ∀ rest : Text, base = .text (scheme.toList ++ rest) →
      ∃ once, call standard now "absolute_url".toList [.text u, base] = .ok (.text once) ∧
        (call standard now "absolute_url".toList [.text once, base] = .ok (.text once) ↔
          Marked u ∨ ∃ c ∈ rest, c ≠ '/') := by
  refine ⟨fun hmarked => ?_, fun habsolute => ?_, ?_⟩
  · rw [call_absoluteUrl, call_relativeUrl, if_pos (isAbsolute_iff.mpr hmarked)]
    exact ⟨rfl, if_pos (isAbsolute_iff.mpr hmarked)⟩
  · have hu := head?_of_isAbsoluteUrl habsolute
    exact ⟨absoluteUrl_eq_self_iff hu, relativeUrl_eq_self_iff hu⟩
  · rintro scheme hscheme rest rfl
    obtain ⟨hne, hmarked⟩ := marked_stripped_iff hscheme rest
    refine ⟨_, absoluteUrl_of_text _, ?_⟩
    rw [absoluteUrl_of_text, Except.ok.injEq, Value.text.injEq, rooted_twice_iff,
      or_iff_right hne, hmarked]

theorem absolute_addresses_mail :
    call standard Moment.epoch "is_absolute_url".toList [.text "mailto:me@x.org".toList] =
        .ok (.bool true) ∧
      call standard Moment.epoch "absolute_url".toList
        [.text "mailto:me@x.org".toList, .text "https://example.com".toList] ≠
          .ok (.text "mailto:me@x.org".toList) ∧
      ∃ once, call standard Moment.epoch "absolute_url".toList
          [.text "mailto:me@x.org".toList, .text "https://example.com".toList] = .ok (.text once) ∧
        call standard Moment.epoch "absolute_url".toList
          [.text once, .text "https://example.com".toList] = .ok (.text once) := by
  have habsolute := isAbsoluteUrl_mail Moment.epoch
  have hunmarked : ¬Marked "mailto:me@x.org".toList := by
    unfold Marked
    decide
  obtain ⟨-, hself, htwice⟩ := absolute_addresses Moment.epoch "mailto:me@x.org".toList
    (.text "https://example.com".toList)
  obtain ⟨once, honce, hagain⟩ := htwice "https://" (by decide) "example.com".toList rfl
  refine ⟨habsolute, mt (hself habsolute).1.mp ?_, once, honce, hagain.mpr (.inr ?_)⟩
  · rintro (hmarked | hbase)
    · exact hunmarked hmarked
    · cases hbase
  · exact ⟨'e', by decide, by decide⟩

theorem mail_not_left :
    ¬ ∀ (now : Moment) (u : Text) (base : Value),
      call standard now "is_absolute_url".toList [.text u] = .ok (.bool true) →
        call standard now "absolute_url".toList [.text u, base] = .ok (.text u) ∧
          call standard now "relative_url".toList [.text u, base] = .ok (.text u) := by
  intro h
  have habsolute := isAbsoluteUrl_mail Moment.epoch
  have hprefixed : rooted "https://example.com".toList "mailto:me@x.org".toList =
      "https://example.com/mailto:me@x.org".toList := by decide
  have hleft := (h Moment.epoch _ (.text "https://example.com".toList) habsolute).1
  rw [absoluteUrl_of_text, hprefixed, Except.ok.injEq, Value.text.injEq] at hleft
  exact absurd hleft (by decide)

end Function

end Stencil
