import Stencil.Proofs.Text.Unclosed
import Stencil.Url.Split

namespace Stencil

open Text

/-! The parts of an address, and addresses put together, hold no closing brace that was not given.
Percent encoding makes none either. -/

namespace Url

instance instHasTextsUrl : HasTexts Url :=
  ⟨fun u => ∀ t ∈ [u.scheme, u.authority, u.path, u.query, u.fragment], Text.Unclosed t⟩

section

variable {u : Url} [h : IsUnclosed u]

instance instIsUnclosedScheme : IsUnclosed u.scheme := .of_text (h.holds u.scheme (by simp))

instance instIsUnclosedAuthority : IsUnclosed u.authority :=
  .of_text (h.holds u.authority (by simp))

instance instIsUnclosedPath : IsUnclosed u.path := .of_text (h.holds u.path (by simp))

instance instIsUnclosedQuery : IsUnclosed u.query := .of_text (h.holds u.query (by simp))

instance instIsUnclosedFragment : IsUnclosed u.fragment := .of_text (h.holds u.fragment (by simp))

end

section

variable {s scheme authority path query fragment : Text}

instance instIsUnclosedMk [hscheme : IsUnclosed scheme] [hauthority : IsUnclosed authority]
    [hpath : IsUnclosed path] [hquery : IsUnclosed query] [hfragment : IsUnclosed fragment] :
    IsUnclosed (Url.mk scheme authority path query fragment) := by
  refine ⟨List.forall_mem_cons.mpr ⟨hscheme.text, List.forall_mem_cons.mpr ⟨hauthority.text,
    List.forall_mem_cons.mpr ⟨hpath.text, List.forall_mem_cons.mpr ⟨hquery.text, ?_⟩⟩⟩⟩⟩
  exact List.forall_mem_singleton.mpr hfragment.text

/-! Taking apart. -/

instance instIsUnclosedPartition (c : Char) [hs : IsUnclosed s] : IsUnclosed (partition c s) := by
  have hbehind : IsUnclosed (match s.dropWhile (· != c) with
      | _ :: rest => some rest
      | [] => none) := by
    split
    · next d rest hdrop =>
        have hdropped : IsUnclosed (d :: rest) := hdrop ▸ inferInstance
        have hrest := hdropped.tail
        infer_instance
    · infer_instance
  unfold partition
  infer_instance

theorem toLower_ne_close {c : Char} (h : c ≠ '}') : c.toLower ≠ '}' := by
  unfold Char.toLower
  split
  · next hupper =>
      intro heq
      have hval : (c.val.toNat + 32) % 4294967296 = 125 := congrArg (·.val.toNat) heq
      have hle : c.val.toNat ≤ 90 := hupper.2
      omega
  · exact h

instance instIsUnclosedLower {c : Char} [h : IsUnclosed c] : IsUnclosed c.toLower :=
  .of_char (toLower_ne_close h.holds)

instance instIsUnclosedSplitScheme {default : Text} [IsUnclosed default] [IsUnclosed s] :
    IsUnclosed (splitScheme default s) := by
  unfold splitScheme
  split
  · next scheme rest heq =>
      have hparts : IsUnclosed (scheme, some rest) := heq ▸ inferInstance
      have hscheme : IsUnclosed scheme := hparts.fst
      have hrest : IsUnclosed rest := hparts.snd.of_mem_option rfl
      infer_instance
  · infer_instance

instance instGivesUnclosedSplitWith {default : Text} [IsUnclosed default] [IsUnclosed s] :
    GivesUnclosed (splitWith default s) := by
  unfold splitWith
  extract_lets t
  have ht : IsUnclosed t := inferInstanceAs (IsUnclosed (List.filter _ _))
  split
  next scheme rest hsplit =>
  have hparts : IsUnclosed (scheme, rest) := hsplit ▸ inferInstance
  have hscheme : IsUnclosed scheme := hparts.fst
  have hrest : IsUnclosed rest := hparts.snd
  split
  next authority behind hauthority =>
  have hpair : IsUnclosed (authority, behind) := by
    rw [← hauthority]
    split
    · next s =>
        have hs : IsUnclosed s := hrest.tail.tail
        infer_instance
    · infer_instance
  have hauthority : IsUnclosed authority := hpair.fst
  have hbehind : IsUnclosed behind := hpair.snd
  extract_lets parts
  have hparts : GivesUnclosed (parts ()) := by
    unfold parts
    split
    next before fragment hfragment =>
    have hmarked : IsUnclosed (before, fragment) := hfragment ▸ inferInstance
    have hbefore : IsUnclosed before := hmarked.fst
    have hfragment : IsUnclosed fragment := hmarked.snd
    split
    next path query hquery =>
    have hasked : IsUnclosed (path, query) := hquery ▸ inferInstance
    have hpath : IsUnclosed path := hasked.fst
    have hquery : IsUnclosed query := hasked.snd
    infer_instance
  split
  · infer_instance
  · exact hparts

instance instGivesUnclosedSplit [IsUnclosed s] : GivesUnclosed (split s) := by
  unfold split
  infer_instance

instance instIsUnclosedHost {u : Url} [IsUnclosed u] : IsUnclosed (host u) := by
  have hpercent : IsUnclosed '%' := .of_char (by decide)
  unfold host
  extract_lets info name
  have hinfo : IsUnclosed info := inferInstanceAs (IsUnclosed (List.reverse _))
  have hname : IsUnclosed name := by
    unfold name
    split
    · next before bracketed heq =>
        have hparts : IsUnclosed (before, some bracketed) := heq ▸ inferInstance
        have hbracketed : IsUnclosed bracketed := hparts.snd.of_mem_option rfl
        infer_instance
    · infer_instance
  split
  · next before zone heq =>
      have hparts : IsUnclosed (before, some zone) := heq ▸ inferInstance
      have hbefore : IsUnclosed before := hparts.fst
      have hzone : IsUnclosed zone := hparts.snd.of_mem_option rfl
      infer_instance
  · next before heq =>
      have hparts : IsUnclosed (before, (none : Option Text)) := heq ▸ inferInstance
      have hbefore : IsUnclosed before := hparts.fst
      infer_instance

/-! Putting together. -/

instance instIsUnclosedSplitParameters {u : Url} [IsUnclosed u] :
    IsUnclosed (splitParameters u) := by
  unfold splitParameters
  split
  · extract_lets last front
    have hlast : IsUnclosed last := inferInstanceAs (IsUnclosed (List.reverse _))
    have hfront : IsUnclosed front := inferInstanceAs (IsUnclosed (List.take _ _))
    split
    · next segment parameters heq =>
        have hparts : IsUnclosed (segment, some parameters) := heq ▸ inferInstance
        have hsegment : IsUnclosed segment := hparts.fst
        have hparameters : IsUnclosed parameters := hparts.snd.of_mem_option rfl
        infer_instance
    · infer_instance
  · infer_instance

instance instIsUnclosedUnsplit {u : Url} [IsUnclosed u] {parameters : Text}
    [IsUnclosed parameters] : IsUnclosed (unsplit u parameters) := by
  have hslash : IsUnclosed '/' := .of_char (by decide)
  have hslashes : IsUnclosed "//".toList := .of_text (by decide)
  have hcolon : IsUnclosed ':' := .of_char (by decide)
  have hsemicolon : IsUnclosed ';' := .of_char (by decide)
  have hquestion : IsUnclosed '?' := .of_char (by decide)
  have hnumber : IsUnclosed '#' := .of_char (by decide)
  unfold unsplit
  dsimp only
  infer_instance

instance instIsUnclosedResolveDots {segments : List Text} [IsUnclosed segments] :
    IsUnclosed (resolveDots segments) := by
  unfold resolveDots
  infer_instance

instance instIsUnclosedJoinPaths [IsUnclosed s] [IsUnclosed path] :
    IsUnclosed (joinPaths s path) := by
  have hslash : IsUnclosed '/' := .of_char (by decide)
  unfold joinPaths
  extract_lets parts parts' segments joined
  have hparts : IsUnclosed parts' := inferInstanceAs (IsUnclosed (ite _ (List.dropLast _) _))
  have hsegments : IsUnclosed segments := by
    unfold segments
    split
    · infer_instance
    · split
      · infer_instance
      · next t heq =>
          have hall : IsUnclosed [t] := heq ▸ inferInstance
          exact hall
      · next t rest _ heq =>
          have hall : IsUnclosed (t :: rest) := heq ▸ inferInstance
          have ht := hall.head
          have hrest := hall.tail
          infer_instance
  infer_instance

instance instGivesUnclosedJoin [IsUnclosed s] [IsUnclosed path] : GivesUnclosed (join s path) := by
  unfold join
  split
  · infer_instance
  · split
    · infer_instance
    · refine .bind fun b hb => .bind fun u hu => ?_
      have hbase : IsUnclosed b := GivesUnclosed.of_eq_ok b hb
      have haddress : IsUnclosed u := GivesUnclosed.of_eq_ok u hu
      split
      · infer_instance
      · split
        next basePath baseParameters heq =>
        have hbaseParts : IsUnclosed (basePath, baseParameters) := heq ▸ inferInstance
        have hbasePath : IsUnclosed basePath := hbaseParts.fst
        have hbaseParameters : IsUnclosed baseParameters := hbaseParts.snd
        split
        next ownPath parameters heq =>
        have hparts : IsUnclosed (ownPath, parameters) := heq ▸ inferInstance
        have hpath : IsUnclosed ownPath := hparts.fst
        have hparameters : IsUnclosed parameters := hparts.snd
        dsimp only
        infer_instance

/-! Percent encoding. -/

theorem lt_of_mem_utf8Bytes {c : Char} {b : Nat} (h : b ∈ utf8Bytes c) : b < 256 := by
  have hcode : c.toNat < 0x110000 := by
    rcases c.valid with hlow | hhigh
    · exact Nat.lt_trans hlow (by decide)
    · exact hhigh.2
  unfold utf8Bytes at h
  dsimp only at h
  split at h
  · simp only [List.mem_singleton] at h
    omega
  · split at h
    · simp only [List.mem_cons, List.not_mem_nil, or_false] at h
      omega
    · split at h <;>
      · simp only [List.mem_cons, List.not_mem_nil, or_false] at h
        omega

theorem hexDigit_ne_close : ∀ n ∈ List.range 16, hexDigit n ≠ '}' := by decide

/-- What is written for a byte: its hexadecimal digits go up to `F`. -/
theorem unclosed_encodedByte {b : Nat} (h : b < 256) :
    IsUnclosed ['%', hexDigit (b / 16), hexDigit (b % 16)] := by
  have hpercent : IsUnclosed '%' := .of_char (by decide)
  have hhigh : IsUnclosed (hexDigit (b / 16)) :=
    .of_char (hexDigit_ne_close _ (List.mem_range.mpr (by omega)))
  have hlow : IsUnclosed (hexDigit (b % 16)) :=
    .of_char (hexDigit_ne_close _ (List.mem_range.mpr (by omega)))
  infer_instance

instance instIsUnclosedEncode [IsUnclosed s] : IsUnclosed (encode s) := by
  have hbytes : ∀ c : Char, IsUnclosed ((utf8Bytes c).flatMap fun b =>
      ['%', hexDigit (b / 16), hexDigit (b % 16)]) := fun c => by
    refine .of_forall fun d hd => ?_
    obtain ⟨b, hb, hmem⟩ := List.mem_flatMap.mp hd
    exact (unclosed_encodedByte (lt_of_mem_utf8Bytes hb)).of_mem hmem
  unfold encode encodeBut
  infer_instance

end

end Url

end Stencil
