import Stencil.Proofs.Eval.Meaning
import Stencil.Proofs.Function.Addresses
import Stencil.Proofs.Function.Numbers

namespace Stencil.Function

open Template

/-! What calls of the standard functions can fail with. -/

/-- Functions that stay within the floats where the numbers in their arguments do. -/
def numeric : List Text :=
  ["add", "subtract", "multiply", "divide", "sqrt", "ceil", "floor", "int", "float"].map
    String.toList

def addressing : List Text :=
  ["relative_url", "url_scheme", "url_host", "url_path", "url_query", "url_fragment",
    "is_absolute_url", "url_join"].map String.toList

def unescaping : List Text := ["unescape", "unescape_html"].map String.toList

/-- Functions that numbers within the floats can bring out of them, or that make texts of any
length. -/
def unguarded : List Text := ["pow", "round", "sum", "repeat"].map String.toList

/-- What each function asks of its arguments, or of `P`, to fail with the faults of `P` only. -/
structure Suits (P : Fault → Prop) (name : Text) (args : List Value) : Prop where
  numbers : name ∈ numeric → ∀ v ∈ args, v.Manageable P
  addresses : name ∈ addressing → ∀ v ∈ args, v.Splittable P
  references : name ∈ unescaping → ∀ v ∈ args, v.Unescapable P
  wide : name ∈ unguarded → Wide P
  zeroDivision : name = "pow".toList → P .zeroDivision

class Kept (P : Fault → Prop) (entry : String × Function) : Prop where
  run : ∀ (now : Moment) (args : List Value), Readable P args → Suits P entry.1.toList args →
    FailsIn P (entry.2.run now args)

class KeptAll (P : Fault → Prop) (entries : List (String × Function)) : Prop where
  of_mem : ∀ entry ∈ entries, Kept P entry

section

variable {P : Fault → Prop} {name : String} {f : Function} {entries rest : List (String × Function)}

instance instKeptAllNil : KeptAll P [] := ⟨fun _ h => nomatch h⟩

instance instKeptAllCons {entry : String × Function} [hentry : Kept P entry]
    [hrest : KeptAll P rest] : KeptAll P (entry :: rest) :=
  ⟨List.forall_mem_cons.mpr ⟨hentry, hrest.of_mem⟩⟩

instance instKeptAllAppend [hentries : KeptAll P entries] [hrest : KeptAll P rest] :
    KeptAll P (entries ++ rest) :=
  ⟨List.forall_mem_append.mpr ⟨hentries.of_mem, hrest.of_mem⟩⟩

instance instKeptOfConfined [hf : Confined P f] : Kept P (name, f) :=
  ⟨fun now args hargs _ => hf.run now args hargs⟩

theorem kept_of_numeric (hname : name.toList ∈ numeric)
    [hf : ConfinedOn P (Value.Manageable P) f] : Kept P (name, f) :=
  ⟨fun now args hargs h => hf.run now args hargs (h.numbers hname)⟩

theorem kept_of_addressing (hname : name.toList ∈ addressing)
    [hf : ConfinedOn P (Value.Splittable P) f] : Kept P (name, f) :=
  ⟨fun now args hargs h => hf.run now args hargs (h.addresses hname)⟩

theorem kept_of_unescaping (hname : name.toList ∈ unescaping) : Kept P (name, unescape) :=
  ⟨fun now args hargs h => ConfinedOn.run now args hargs (h.references hname)⟩

theorem kept_of_unguarded (hname : name.toList ∈ unguarded) (hf : Wide P → Confined P f) :
    Kept P (name, f) :=
  ⟨fun now args hargs h => (hf (h.wide hname)).run now args hargs⟩

theorem kept_power : Kept P ("pow", power) where
  run now args hargs h := by
    have hwide := h.wide (by decide)
    exact (confined_power (h.zeroDivision rfl)).run now args hargs

instance instKeptAllWords [Admits P] : KeptAll P words := by
  have hunescape : Kept P ("unescape", unescape) := kept_of_unescaping (by decide)
  have hunescapeHtml : Kept P ("unescape_html", unescape) := kept_of_unescaping (by decide)
  have hrepeat : Kept P ("repeat", repeated) :=
    kept_of_unguarded (by decide) fun _ => inferInstance
  unfold words
  infer_instance

instance instKeptAllLogic [Admits P] : KeptAll P logic := by
  have hint : Kept P ("int", ofValue fun v => do return .int (← (← v.number "int").truncate)) :=
    kept_of_numeric (by decide)
  have hfloat : Kept P ("float", ofValue fun v => do
      return .float (← (← v.number "float").toFloat)) := kept_of_numeric (by decide)
  have hbool : Confined P (ofValue fun v => .ok (.bool v.flag)) :=
    confined_ofValue fun _ _ => inferInstance
  have hsize : Confined P (ofValue fun v => do return .int (← size v)) :=
    confined_ofValue fun _ _ => inferInstance
  have hempty : Confined P (ofValue fun v => do return .bool ((← size v) == 0)) :=
    confined_ofValue fun _ _ => inferInstance
  have hblank : Confined P (ofValue fun v => do
      return .bool (Text.trim (← v.joined)).isEmpty) := confined_ofValue fun _ _ => inferInstance
  unfold logic
  infer_instance

instance instKeptAllArithmetic [Admits P] : KeptAll P arithmetic := by
  have hadd : Kept P ("add", binary "add" Number.add) := kept_of_numeric (by decide)
  have hsubtract : Kept P ("subtract", binary "subtract" Number.sub) :=
    kept_of_numeric (by decide)
  have hmultiply : Kept P ("multiply", binary "multiply" Number.mul) :=
    kept_of_numeric (by decide)
  have hdivide : Kept P ("divide", divide) := kept_of_numeric (by decide)
  have hround : Kept P ("round", round) := kept_of_unguarded (by decide) fun _ => inferInstance
  have hceil : Kept P ("ceil", toInteger "ceil" Number.ceil) := kept_of_numeric (by decide)
  have hfloor : Kept P ("floor", toInteger "floor" Number.floor) := kept_of_numeric (by decide)
  have hsqrt : Kept P ("sqrt", squareRoot) := kept_of_numeric (by decide)
  have hpow : Kept P ("pow", power) := kept_power
  have hsum : Kept P ("sum", fold "sum" fun ns => do
      return (← ns.foldlM Number.add (.int 0)).tidy) :=
    kept_of_unguarded (by decide) fun _ => inferInstance
  unfold arithmetic
  infer_instance

instance instKeptAllLists : KeptAll P lists := by
  unfold lists
  infer_instance

instance instKeptAllTimes : KeptAll P times := by
  unfold times
  infer_instance

instance instKeptAllAddresses : KeptAll P addresses := by
  have hrelative : Kept P ("relative_url", relativeUrl) := kept_of_addressing (by decide)
  have hpart : ∀ (name : String) (f : Url → Value), name.toList ∈ addressing →
      Kept P (name, part f) := fun _ _ hname => kept_of_addressing hname
  have hscheme := hpart "url_scheme" (fun u => .text u.scheme) (by decide)
  have hhost := hpart "url_host" (fun u => .text u.host) (by decide)
  have hpath := hpart "url_path" (fun u => .text u.path) (by decide)
  have hquery := hpart "url_query" (fun u => .text u.query) (by decide)
  have hfragment := hpart "url_fragment" (fun u => .text u.fragment) (by decide)
  have habsolute := hpart "is_absolute_url" (fun u => .bool !u.scheme.isEmpty) (by decide)
  have hjoin : Kept P ("url_join", joinUrls) := kept_of_addressing (by decide)
  unfold addresses
  infer_instance

theorem failsIn_call_standard [Admits P] (now : Moment) {name : Text} {args : List Value}
    (hname : standard.has name = true) (hargs : Readable P args) (hsuits : Suits P name args) :
    FailsIn P (call standard now name args) := by
  obtain ⟨f, hf⟩ := Option.isSome_iff_exists.mp hname
  obtain ⟨n, hmem, rfl⟩ := Registry.mem_of_get?_ofList hf
  have hall : KeptAll P (words ++ logic ++ arithmetic ++ lists ++ times ++ addresses) :=
    inferInstance
  unfold call
  rw [hf]
  dsimp only
  split
  · infer_instance
  · exact (hall.of_mem _ hmem).run now args hargs hsuits

end

def Lapse (name : Text) : Fault → Prop
  | .overflow | .outOfDomain => True
  | .zeroDivision => name = "pow".toList
  | _ => False

/-- Arguments that a function of that name can only refuse: they can be written out and counted
with, their numbers lie within the floats, their addresses hold no brackets. -/
structure Modest (name : Text) (args : List Value) : Prop where
  guarded : name ∉ unguarded
  short : ∀ v ∈ args, v.Short
  bounded : ∀ v ∈ args, v.Bounded
  numbers : name ∈ numeric → ∀ v ∈ args, ∀ caller n, v.number caller = .ok n → n.Moderate
  addresses : name ∈ addressing → ∀ v ∈ args, ∀ s, v.joined = .ok s → Url.Unbracketed s
  references : name ∈ unescaping → ∀ v ∈ args, ∀ s, v.joined = .ok s → '&' ∉ s

theorem Modest.failsIn_call (now : Moment) {name : Text} {args : List Value}
    (hname : standard.has name = true) (h : Modest name args) :
    FailsIn Fault.Refusal (call standard now name args) := by
  have hargs : Readable Fault.Refusal args :=
    ⟨fun v hv => (h.short v hv).failsIn_joined,
      fun v hv => Value.wholeNumber?_failsIn (.inr (h.bounded v hv))⟩
  have hsuits : Suits Fault.Refusal name args :=
    { numbers := fun hmem v hv caller n hn => .inr (h.numbers hmem v hv caller n hn)
      addresses := fun hmem v hv s hs => .inr (h.addresses hmem v hv s hs)
      references := fun hmem v hv s hs => .inr (h.references hmem v hv s hs)
      wide := fun hmem => absurd hmem h.guarded
      zeroDivision := fun heq => absurd (heq ▸ (by decide : "pow".toList ∈ unguarded)) h.guarded }
  exact failsIn_call_standard now hname hargs hsuits

theorem failsIn_call_plain (now : Moment) {name : Text} {args : List Value}
    (hname : standard.has name = true) (hplain : ∀ v ∈ args, v.Plain) :
    FailsIn (fun e => e.Refusal ∨ Lapse name e) (call standard now name args) := by
  have hwide : Wide fun e => e.Refusal ∨ Lapse name e :=
    { badArguments := fun _ => .inl trivial
      overflow := .inr trivial
      outOfDomain := .inr trivial }
  have hargs : Readable (fun e => e.Refusal ∨ Lapse name e) args :=
    ⟨fun v hv => (hplain v hv).failsIn_joined hwide.outOfDomain,
      fun v _ => Value.wholeNumber?_failsIn (.inl hwide.overflow)⟩
  have hsuits : Suits (fun e => e.Refusal ∨ Lapse name e) name args :=
    { numbers := fun _ _ _ _ _ _ => .inl hwide
      addresses := fun _ _ _ _ _ => .inl hwide
      references := fun _ _ _ _ _ => .inl hwide
      wide := fun _ => hwide
      zeroDivision := fun heq => .inr heq }
  exact failsIn_call_standard now hname hargs hsuits

/-! A call in a template. -/

theorem plain_of_coerced {tools : Toolbox} {ctx : Context} {texts : List Text}
    {args : List Value}
    (h : (texts.mapM fun a => do
      Eval.ofExcept (← resolveArgument tools ctx a).coerce).result = .ok args) :
    ∀ v ∈ args, v.Plain := by
  rw [Eval.result_mapM] at h
  refine forall_of_mapM_eq_ok h fun a _ v hv => ?_
  rw [Eval.result_bind] at hv
  obtain ⟨w, -, hcoerce⟩ := bind_eq_ok.mp hv
  exact w.coerce_plain hcoerce

theorem failsIn_granted {name : Text} {x : Except Fault Value}
    (h : FailsIn (fun e => e.Refusal ∨ Lapse name e) x) : FailsIn (Lapse name) (granted x) := by
  cases x with
  | ok v => exact instFailsInOk v
  | error e =>
      rcases h.of_eq_error e rfl with hrefusal | hlapse
      · cases e with
        | badArguments message => exact instFailsInOk _
        | _ => exact absurd hrefusal id
      · cases e with
        | badArguments message => exact absurd hlapse id
        | _ => exact failsIn_error hlapse

theorem granted_isOk {x : Except Fault Value} (h : FailsIn Fault.Refusal x) :
    ∃ v, granted x = .ok v := by
  cases x with
  | ok v => exact ⟨v, rfl⟩
  | error e =>
      have hrefusal := h.of_eq_error e rfl
      cases e with
      | badArguments message => exact ⟨.nil, rfl⟩
      | _ => exact absurd hrefusal id

theorem call_result_of_has {tools : Toolbox} {ctx : Context} {name raw : Text}
    {args : List Value} (hname : tools.functions.has name = true)
    (hargs : ((splitArguments raw).mapM fun a => do
      Eval.ofExcept (← resolveArgument tools ctx a).coerce).result = .ok args) :
    (Template.call tools ctx name raw).result =
      granted (call tools.functions ctx.now name args) := by
  rw [Template.call, applyName_result, answer, if_pos hname, hargs]
  rfl

/-- A registered function refuses the arguments that it cannot use, or it lapses: arithmetic leaves
the floats, a number or an address cannot be read, or zero gets a negative power. It refuses only,
where its arguments are modest. In a template a refusal is nil, so that only a lapse comes out of a
call whose arguments have values. -/
theorem call_standard (name : Text) (hname : standard.has name = true) :
    (∀ (now : Moment) (args : List Value), (∀ v ∈ args, v.Plain) →
      FailsIn (fun e => e.Refusal ∨ Lapse name e) (call standard now name args) ∧
      (Modest name args → FailsIn Fault.Refusal (call standard now name args))) ∧
    (∀ (filters : Registry Filter) (ctx : Context) (raw : Text) (args : List Value),
      ((splitArguments raw).mapM fun a => do
        Eval.ofExcept (← resolveArgument ⟨standard, filters⟩ ctx a).coerce).result = .ok args →
      FailsIn (Lapse name) (Template.call ⟨standard, filters⟩ ctx name raw).result ∧
      (Modest name args →
        ∃ v, (Template.call ⟨standard, filters⟩ ctx name raw).result = .ok v)) := by
  constructor
  · intro now args hplain
    exact ⟨failsIn_call_plain now hname hplain, fun h => h.failsIn_call now hname⟩
  · intro filters ctx raw args hargs
    rw [call_result_of_has hname hargs]
    have hplain := plain_of_coerced hargs
    exact ⟨failsIn_granted (failsIn_call_plain ctx.now hname hplain),
      fun h => granted_isOk (h.failsIn_call ctx.now hname)⟩

theorem call_standard_divide :
    standard.has "divide".toList = true ∧
      FailsIn Fault.Refusal (call standard Moment.epoch "divide".toList [.int 7, .int 0]) := by
  have hsmall : ∀ v ∈ [Value.int 7, .int 0], ∃ i : Int, v = .int i ∧ i.natAbs < 2 ^ 3 := by
    simp
  have hplain : ∀ v ∈ [Value.int 7, .int 0], v.Plain := by
    intro v hv
    obtain ⟨i, rfl, -⟩ := hsmall v hv
    exact .int i trivial
  have hmodest : Modest "divide".toList [.int 7, .int 0] :=
    { guarded := by decide
      short := by
        simp only [List.forall_mem_cons]
        exact ⟨.int 7 rfl, .int 0 rfl, List.forall_mem_nil _⟩
      bounded := by simp [Value.Bounded]
      numbers := by
        intro _ v hv caller n hn
        obtain ⟨i, rfl, hi⟩ := hsmall v hv
        cases hn
        exact Number.moderate_int hi (by decide)
      addresses := fun h => absurd h (by decide)
      references := fun h => absurd h (by decide) }
  exact ⟨rfl, (((call_standard "divide".toList rfl).1 Moment.epoch _ hplain).2 hmodest)⟩

theorem call_standard_lapses :
    ¬ ∀ (now : Moment) (name : Text) (args : List Value), standard.has name = true →
      (∀ v ∈ args, v.Plain) → FailsIn Fault.Refusal (call standard now name args) := by
  intro h
  have hplain : ∀ v ∈ [Value.int 0, .int (-1)], v.Plain := by
    simp only [List.forall_mem_cons]
    exact ⟨.int 0 trivial, .int (-1) trivial, List.forall_mem_nil _⟩
  have hpow : call standard Moment.epoch "pow".toList [.int 0, .int (-1)] =
      .error .zeroDivision := rfl
  exact (h Moment.epoch "pow".toList [.int 0, .int (-1)] rfl hplain).of_eq_error _ hpow

end Stencil.Function
