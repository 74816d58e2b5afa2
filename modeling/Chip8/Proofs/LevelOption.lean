import Chip8.Proofs.BlankSetting

/-! What the level option of a command line has a say in: the level of the settings, and nothing
else. -/

namespace Chip8.CommandLine

/-- How an outcome hangs on a level: it is an error whatever the level is, it is set to the level,
or it is the same at all levels. -/
inductive Follows {ε α : Type} (update : α → Level → α) (outcome : Level → Except ε α) :
    Prop
  | refused (cause : ε) (h : ∀ l, outcome l = .error cause)
  | set (a : α) (h : ∀ l, outcome l = .ok (update a l))
  | fixed (a : α) (h : ∀ l, outcome l = .ok a)

namespace Follows

variable {ε δ α β : Type} {update : α → Level → α} {updateNext : β → Level → β}

theorem const (x : Except ε α) : Follows update fun _ => x := by
  cases x with
  | error cause => exact .refused cause fun _ => rfl
  | ok a => exact .fixed a fun _ => rfl

theorem congr {x y : Level → Except ε α} (hy : Follows update y) (h : ∀ l, x l = y l) :
    Follows update x := by
  obtain rfl : x = y := funext h
  exact hy

theorem bind_const {x : Except ε α} {f : Level → α → Except ε β}
    (hf : ∀ a, Follows updateNext fun l => f l a) : Follows updateNext fun l => x >>= f l := by
  cases x with
  | error cause => exact .refused cause fun _ => rfl
  | ok a => exact hf a

theorem map {x : Level → Except ε α} (hx : Follows update x) (f : Except ε α → Except δ β)
    (hset : ∀ a, Follows updateNext fun l => f (.ok (update a l))) :
    Follows updateNext fun l => f (x l) := by
  cases hx with
  | refused cause h => exact (const (f (.error cause))).congr fun l => congrArg f (h l)
  | set a h => exact (hset a).congr fun l => congrArg f (h l)
  | fixed a h => exact (const (f (.ok a))).congr fun l => congrArg f (h l)

theorem bind {x : Level → Except ε α} {f : α → Except ε β} (hx : Follows update x)
    (hf : ∀ a, Follows updateNext fun l => f (update a l)) :
    Follows updateNext fun l => x l >>= f :=
  hx.map (· >>= f) hf

theorem mapError {x : Level → Except ε α} (hx : Follows update x) (f : ε → δ) :
    Follows update fun l => (x l).mapError f :=
  hx.map (·.mapError f) fun a => .set a fun _ => rfl

/-- A value that is read regardless of the level goes into something that is set to it. -/
theorem read (x : Except ε β) (put : β → α) :
    Follows update fun l => do return update (put (← x)) l := by
  cases x with
  | error cause => exact .refused cause fun _ => rfl
  | ok b => exact .set (put b) fun _ => rfl

end Follows

def Options.atLevel (o : Options) (l : Level) : Options := { o with level := .value l }

def Settings.atLevel (s : Settings) (l : Level) : Settings := { s with level := .value l }

theorem Flag.follows_assign (flag : Flag) (text : String) (o : Options) :
    Follows Options.atLevel fun l => flag.assign text (o.atLevel l) := by
  cases flag with
  | help => exact .set o fun _ => rfl
  | scale => exact .read _ fun entry => { o with scale := entry }
  | fps => exact .read _ fun entry => { o with fps := entry }
  | colorScheme => exact .read _ fun entry => { o with scheme := entry }
  | seed => exact .read _ fun entry => { o with seed? := some entry }
  | cycles => exact .read _ fun entry => { o with cycles? := some entry }
  -- A level that is given again takes the place of the one before.
  | logLevel => exact .const (Flag.logLevel.assign text o)

namespace Draft

def atLevel (d : Draft) (l : Level) : Draft := { d with options := d.options.atLevel l }

theorem assign_eq (d : Draft) (flag : Flag) (text : String) :
    d.assign flag text =
      (fun options => { d with options }) <$> (flag.assign text d.options).mapError .refused := by
  unfold assign
  cases flag.assign text d.options <;> rfl

theorem follows_assign (d : Draft) (flag : Flag) (text : String) :
    Follows atLevel fun l => (d.atLevel l).assign flag text := by
  have hassign : Follows atLevel fun l =>
      (fun options => { d with options }) <$>
        (flag.assign text (d.options.atLevel l)).mapError Exit.refused :=
    (Flag.follows_assign flag text d.options).map
      (fun x => (fun options => { d with options }) <$> x.mapError Exit.refused)
      fun o => .set { d with options := o } fun _ => rfl
  exact hassign.congr fun l => assign_eq (d.atLevel l) flag text

@[simp] theorem rom?_atLevel (d : Draft) (l : Level) : (d.atLevel l).rom? = d.rom? := rfl

@[simp] theorem take_atLevel (d : Draft) (l : Level) (rom : String) :
    (d.atLevel l).take rom = (d.take rom).atLevel l := rfl

@[simp] theorem leave_atLevel (d : Draft) (l : Level) (texts : List String) :
    (d.atLevel l).leave texts = (d.leave texts).atLevel l := rfl

theorem follows_read (d : Draft) (words : List Word) :
    Follows atLevel fun l => (d.atLevel l).read words := by
  fun_induction Draft.read d words with
  | case1 d => exact .set d fun _ => rfl
  | case2 d short attached? rest => exact .const _
  | case3 d flag short text rest hflag ih | case4 d flag short text rest hflag ih =>
    simp only [read]
    exact (follows_assign d flag text).bind ih
  | case5 d flag short rest hflag hvalue =>
    simp only [read]
    exact .const _
  | case6 d text rest ih => exact ih
  | case7 d text rest hrom ih | case8 d text rest hrom ih | case9 d text rest hnext hrom ih
  | case10 d text rest hnext hrom ih | case11 d text rest hrom ih | case12 d text rest hrom ih =>
    simpa [read, hrom] using ih
  | case13 d rest hvalue ih => simpa [read] using ih

theorem follows_finish (d : Draft) : Follows Settings.atLevel fun l => (d.atLevel l).finish := by
  obtain ⟨options, rom?, leftOver⟩ := d
  cases rom? with
  | none => exact .const _
  | some rom =>
    cases leftOver with
    | nil => exact .set { options with rom } fun _ => rfl
    | cons text rest => exact .refused (.refused (.leftOver (text :: rest))) fun _ => rfl

/-- What becomes of a draft with the words that are left: the settings, or the code of an exit. -/
def settle (d : Draft) (words : List Word) : Except Nat Settings :=
  (do (← d.read words).finish : Except Exit Settings).mapError Exit.code

variable {d : Draft}

theorem settle_congr {e : Draft} {words rest : List Word} (h : d.read words = e.read rest) :
    d.settle words = e.settle rest := by
  rw [settle, h]
  rfl

theorem settle_of_error {words : List Word} {exit : Exit} (h : d.read words = .error exit) :
    d.settle words = .error exit.code := by
  rw [settle, h]
  rfl

theorem settle_flag {flag : Flag} (hflag : flag ≠ .help) (short : Bool) (text : String)
    (rest : List Word) :
    d.settle (.flag flag short (some text) :: rest) =
      (d.assign flag text).mapError Exit.code >>= fun assigned => assigned.settle rest := by
  have hread : d.read (.flag flag short (some text) :: rest) =
      (d.assign flag text >>= fun assigned => assigned.read rest) := by
    simp only [read]
  rw [settle, hread]
  cases d.assign flag text <;> rfl

theorem settle_flag_value {flag : Flag} (hflag : flag ≠ .help) (short : Bool) (text : String)
    (rest : List Word) :
    d.settle (.flag flag short none :: .value text :: rest) =
      d.settle (.flag flag short (some text) :: rest) := by
  apply settle_congr
  simp only [read]

theorem settle_value {rest : List Word} (hrest : ∀ words, rest ≠ .terminator :: words)
    (text : String) :
    d.settle (.value text :: rest) =
      (if d.rom?.isNone then d.take text else d.leave [text]).settle rest := by
  cases hrom : d.rom?.isNone <;> exact settle_congr (by simp [read, hrom])

theorem isSome_rom?_placed (d : Draft) (text : String) (texts : List String) :
    (if d.rom?.isNone then d.take text else d.leave texts).rom?.isSome := by
  split
  case isTrue => rfl
  case isFalse hrom =>
    have hsome : d.rom?.isSome := by simpa [Option.isSome_iff_ne_none] using hrom
    exact hsome

/-- Once there is a ROM, values are left over and lead to the exit of a wrong command line. -/
theorem settle_values (hrom : d.rom?.isSome) {texts : List String}
    (h : d.leftOver ≠ [] ∨ texts ≠ []) : d.settle (texts.map .value) = .error 2 := by
  induction texts generalizing d with
  | nil =>
    obtain ⟨options, rom?, leftOver⟩ := d
    obtain ⟨rom, rfl⟩ := Option.isSome_iff_exists.mp hrom
    obtain ⟨text, rest, rfl⟩ := List.exists_cons_of_ne_nil (h.resolve_right (by simp))
    rfl
  | cons text rest ih =>
    have hnext (words : List Word) : rest.map Word.value ≠ .terminator :: words := by
      cases rest <;> simp
    have htaken : ¬ d.rom?.isNone := by simpa [Option.isSome_iff_ne_none] using hrom
    rw [List.map_cons, settle_value hnext, if_neg htaken]
    exact ih hrom (.inl (by simp [leave]))

theorem settle_terminator_values (d : Draft) (text : String) {texts : List String}
    (h : texts ≠ []) : d.settle (.terminator :: .value text :: texts.map .value) = .error 2 := by
  have hread : d.settle (.terminator :: .value text :: texts.map .value) =
      (if d.rom?.isNone then d.take text else d.leave [terminator, text]).settle
        (texts.map .value) := by
    cases hrom : d.rom?.isNone <;> exact settle_congr (by simp [read, hrom])
  rw [hread]
  exact settle_values (isSome_rom?_placed d text _) (.inr h)

theorem settle_value_terminator (d : Draft) (text : String) {texts : List String}
    (h : texts ≠ []) : d.settle (.value text :: .terminator :: texts.map .value) = .error 2 := by
  have hread : d.settle (.value text :: .terminator :: texts.map .value) =
      (if d.rom?.isNone then d.take text else d.leave [text, terminator]).settle
        (texts.map .value) := by
    cases hrom : d.rom?.isNone <;> exact settle_congr (by simp [read, hrom])
  rw [hread]
  exact settle_values (isSome_rom?_placed d text _) (.inr h)

theorem follows_settle (d : Draft) (words : List Word) :
    Follows Settings.atLevel fun l => (d.atLevel l).settle words :=
  ((follows_read d words).bind follows_finish).mapError Exit.code

/-- A level that a flag asks for, and what comes after it. -/
theorem follows_asked (d : Draft) (rest : List Word) :
    Follows Settings.atLevel fun l =>
      d.settle (.flag .logLevel false none :: .value l.name :: rest) := by
  have hasked (l : Level) : d.settle (.flag .logLevel false none :: .value l.name :: rest) =
      (d.atLevel l).settle rest := by
    cases l <;> rfl
  simp only [hasked]
  exact follows_settle d rest

/-- Words in front of others change nothing about what hangs on the level in these, unless the last
of the words takes a value from them. -/
theorem follows_append {tail : Level → List Word}
    (hstart : ∀ l text rest, tail l ≠ .value text :: rest)
    (htail : ∀ d : Draft, Follows Settings.atLevel fun l => d.settle (tail l))
    (hvalue : ∀ (d : Draft) (text : String),
      Follows Settings.atLevel fun l => d.settle (.value text :: tail l))
    (d : Draft) (words : List Word) :
    Follows Settings.atLevel fun l => d.settle (words ++ tail l) := by
  fun_induction Draft.read d words with
  | case1 d => exact htail d
  | case2 d short attached? rest => exact .refused _ fun l => settle_of_error rfl
  | case3 d flag short text rest hflag ih =>
    simp only [List.cons_append, settle_flag hflag]
    exact .bind_const ih
  | case4 d flag short text rest hflag ih =>
    simp only [List.cons_append, settle_flag_value hflag, settle_flag hflag]
    exact .bind_const ih
  | case5 d flag short rest hflag hrest =>
    have hmissing (l : Level) : d.read (.flag flag short none :: rest ++ tail l) =
        .error (.refused (.missingValue flag)) := by
      cases rest with
      | nil => simp [read, hstart l]
      | cons word rest =>
        have hword (text : String) : word ≠ .value text := by
          rintro rfl
          exact hrest text rest rfl
        simp [read, hword]
    exact .refused _ fun l => settle_of_error (hmissing l)
  | case6 d text rest ih => exact ih
  | case7 d text rest hrom ih | case8 d text rest hrom ih | case11 d text rest hrom ih
  | case12 d text rest hrom ih =>
    exact ih.congr fun l => settle_congr (by simp [read, hrom])
  | case9 d text rest hrest hrom ih | case10 d text rest hrest hrom ih =>
    cases rest with
    -- The last word is a value, and what follows may begin with a terminator.
    | nil => exact hvalue d text
    | cons word rest =>
      have hword : word ≠ .terminator := by
        rintro rfl
        exact hrest rest rfl
      exact ih.congr fun l => settle_congr (by simp [read, hrom, hword])
  | case13 d rest hrest ih =>
    cases rest with
    | nil => exact ih.congr fun l => settle_congr (by simp [read, hstart l])
    | cons word rest =>
      have hword (text : String) : word ≠ .value text := by
        rintro rfl
        exact hrest text rest rfl
      exact ih.congr fun l => settle_congr (by simp [read, hword])

end Draft

namespace Word

/-- Texts in front of others are told apart on their own, as long as there is no terminator among
them. -/
theorem ofTexts_append {before : List String} (hbefore : CommandLine.terminator ∉ before) :
    (∃ cause, ∀ rest, ofTexts (before ++ rest) = .error cause) ∨
      ∃ words, ∀ rest, ofTexts (before ++ rest) = (words ++ ·) <$> ofTexts rest := by
  induction before with
  | nil =>
    refine .inr ⟨[], fun rest => ?_⟩
    rw [List.nil_append]
    cases ofTexts rest <;> rfl
  | cons text before ih =>
    have htext : text ≠ CommandLine.terminator := fun h => hbefore (h ▸ List.mem_cons_self)
    have hcons (rest : List String) : ofTexts (text :: before ++ rest) =
        (do return (← ofText text) :: (← ofTexts (before ++ rest))) :=
      if_neg htext
    cases hword : ofText text with
    | error cause =>
      refine .inl ⟨cause, fun rest => ?_⟩
      rw [hcons, hword]
      rfl
    | ok word =>
      rcases ih fun h => hbefore (List.mem_cons_of_mem _ h) with ⟨cause, h⟩ | ⟨words, h⟩
      · refine .inl ⟨cause, fun rest => ?_⟩
        rw [hcons, hword, h]
        rfl
      · refine .inr ⟨word :: words, fun rest => ?_⟩
        rw [hcons, hword, h]
        cases ofTexts rest <;> rfl

theorem ofTexts_asked (l : Level) (after : List String) :
    ofTexts (Flag.logLevel.name :: l.name :: after) =
      (fun words => .flag .logLevel false none :: .value l.name :: words) <$> ofTexts after := by
  have hflag : ofText Flag.logLevel.name = .ok (.flag .logLevel false none) := by decide +kernel
  have hname : ofText l.name = .ok (.value l.name) := by cases l <;> decide +kernel
  have hfirst : Flag.logLevel.name ≠ CommandLine.terminator := by decide
  have hsecond : l.name ≠ CommandLine.terminator := by cases l <;> decide
  rw [ofTexts, if_neg hfirst, hflag, ofTexts, if_neg hsecond, hname]
  cases ofTexts after <;> rfl

end Word

/-- A command line that asks for a level, with what comes before and after. -/
def asking (before after : List String) (l : Level) : List String :=
  before ++ Flag.logLevel.name :: l.name :: after

theorem parse_eq_settle (arguments : List String) :
    (parse arguments).mapError Exit.code =
      (Word.ofTexts arguments).mapError (fun _ => 2) >>= Draft.settle {} := by
  unfold parse
  cases Word.ofTexts arguments <;> rfl

theorem follows_parse_of_not_mem {before : List String} (hbefore : terminator ∉ before)
    (after : List String) :
    Follows Settings.atLevel fun l => (parse (asking before after l)).mapError Exit.code := by
  simp only [parse_eq_settle]
  rcases Word.ofTexts_append hbefore with ⟨cause, h⟩ | ⟨words, h⟩
  · refine .refused 2 fun l => ?_
    rw [asking, h]
    rfl
  · cases hafter : Word.ofTexts after with
    | error cause =>
      refine .refused 2 fun l => ?_
      rw [asking, h, Word.ofTexts_asked, hafter]
      rfl
    | ok rest =>
      have hwords (l : Level) : Word.ofTexts (asking before after l) =
          .ok (words ++ .flag .logLevel false none :: .value l.name :: rest) := by
        rw [asking, h, Word.ofTexts_asked, hafter]
        rfl
      have hvalue (d : Draft) (text : String) (l : Level) :
          d.settle (.value text :: .flag .logLevel false none :: .value l.name :: rest) =
            (if d.rom?.isNone then d.take text else d.leave [text]).settle
              (.flag .logLevel false none :: .value l.name :: rest) :=
        Draft.settle_value (by simp) text
      simp only [hwords]
      refine Draft.follows_append (by simp) (fun d => Draft.follows_asked d rest) ?_ {} words
      intro d text
      exact (Draft.follows_asked _ rest).congr (hvalue d text)

/-- Behind a terminator the option is none: it is two values, and one of them at least is left
over. -/
theorem follows_parse_of_mem {before : List String} (hbefore : terminator ∈ before)
    (after : List String) :
    Follows Settings.atLevel fun l => (parse (asking before after l)).mapError Exit.code := by
  obtain ⟨options, values, rfl, hoptions⟩ := List.eq_append_cons_of_mem hbefore
  have htail (l : Level) : asking (options ++ terminator :: values) after l =
      options ++ terminator :: asking values after l := by
    simp [asking]
  simp only [parse_eq_settle, htail]
  rcases Word.ofTexts_append hoptions with ⟨cause, h⟩ | ⟨words, h⟩
  · refine .refused 2 fun l => ?_
    rw [h]
    rfl
  · have hwords (l : Level) : Word.ofTexts (options ++ terminator :: asking values after l) =
        .ok (words ++ .terminator :: (asking values after l).map .value) := by
      rw [h, Word.ofTexts_terminator]
      rfl
    have htwo (l : Level) :
        ∃ text texts, asking values after l = text :: texts ∧ texts ≠ [] := by
      cases values with
      | nil => exact ⟨Flag.logLevel.name, l.name :: after, rfl, by simp⟩
      | cons text rest => exact ⟨text, asking rest after l, rfl, by simp [asking]⟩
    simp only [hwords]
    refine Draft.follows_append (by simp) (fun d => .refused 2 fun l => ?_)
      (fun d text => .refused 2 fun l => ?_) {} words
    · obtain ⟨text, texts, hvalues, hrest⟩ := htwo l
      rw [hvalues]
      exact d.settle_terminator_values text hrest
    · exact d.settle_value_terminator text (by simp [asking])

/-- Whether there are settings at all does not hang on the level that is asked for. If there are,
it is their level, unless the command line has another after it. -/
theorem follows_parse (before after : List String) :
    Follows Settings.atLevel fun l => (parse (asking before after l)).mapError Exit.code := by
  by_cases hbefore : terminator ∈ before
  · exact follows_parse_of_mem hbefore after
  · exact follows_parse_of_not_mem hbefore after

end Chip8.CommandLine
