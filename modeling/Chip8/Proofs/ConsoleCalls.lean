import Chip8.Log.Console
import Mathlib.Data.List.Basic

/-! Calls of a console one after another. A console is told by the level in force, which is the last
one set under a valid name: whatever is refused changes nothing, and each message of that level or a
higher one is a line of the text. -/

namespace Chip8

namespace Text

def cased (full : Char → List Char) (s : String) : String := String.ofList (s.toList.flatMap full)

/-- Whether a full upper-case mapping agrees with `upperChar` as far as plain Latin capitals go. -/
def Uppercases (full : Char → List Char) : Prop :=
  ∀ c, (∀ d ∈ full c, d.isUpper) ∨ (∀ d ∈ upperChar c, d.isUpper) → full c = upperChar c

theorem cased_eq_iff {full : Char → List Char} (hfull : Uppercases full) {s t : String}
    (ht : ∀ d ∈ t.toList, d.isUpper) : cased full s = t ↔ upper s = t := by
  constructor
  · rintro rfl
    refine congrArg String.ofList (List.flatMap_congr fun c hc => (hfull c (.inl ?_)).symm)
    intro d hd
    exact ht d (by simpa [cased] using ⟨c, hc, hd⟩)
  · rintro rfl
    refine congrArg String.ofList (List.flatMap_congr fun c hc => hfull c (.inr ?_))
    intro d hd
    exact ht d (by simpa [upper] using ⟨c, hc, hd⟩)

end Text

theorem Level.isUpper_name (l : Level) : ∀ d ∈ l.name.toList, d.isUpper := by
  cases l <;> simp [Level.name]

namespace Console

open Text (cased Uppercases cased_eq_iff)

structure Call where
  time : Int
  request : Request

namespace Request

/-- The level a request sets, if the full upper-case form of its name is the name of one. -/
def setting? (full : Char → List Char) : Request → Option Level
  | setThreshold name => Level.ofName? (cased full name)
  | _ => none

/-- The level and the text of a message. A level that is not named exactly makes none. -/
def message? : Request → Option (Level × String)
  | log name text => (Level.ofName? name).map (·, text)
  | message level text => some (level, text)
  | _ => none

def isMessage : Request → Bool
  | log .. | message .. => true
  | _ => false

theorem setting?_of_isMessage {r : Request} (h : r.isMessage) (full : Char → List Char) :
    r.setting? full = none := by
  cases r with
  | log name text => rfl
  | message level text => rfl
  | setThreshold name => cases h
  | isEnabled name => cases h

theorem message?_of_not_isMessage {r : Request} (h : r.isMessage = false) : r.message? = none := by
  cases r with
  | log name text => cases h
  | message level text => cases h
  | setThreshold name => rfl
  | isEnabled name => rfl

end Request

def answer (c : Console) (call : Call) : Except LevelError Reply :=
  (c.serve call.time call.request).map Prod.snd

/-- The console after a call. One that is refused leaves it as it was. -/
def next (c : Console) (call : Call) : Console :=
  match c.serve call.time call.request with
  | .ok (new, _) => new
  | .error _ => c

def after (c : Console) (calls : List Call) : Console := calls.foldl next c

def answers (c : Console) : List Call → List (Except LevelError Reply)
  | [] => []
  | call :: rest => c.answer call :: (c.next call).answers rest

def printed : Except LevelError Reply → String
  | .ok reply => reply.printed
  | .error _ => ""

def output (c : Console) (calls : List Call) : String :=
  String.join ((c.answers calls).map printed)

/-- The line of a message that is not below the threshold. -/
def line? (c : Console) (call : Call) : Option String :=
  call.request.message?.bind fun said =>
    if c.threshold ≤ said.1 then some (c.line call.time said.1 said.2) else none

def atLevel (c : Console) (level : Level) : Console := { c with threshold := level }

@[simp] theorem threshold_atLevel (c : Console) (level : Level) :
    (c.atLevel level).threshold = level := rfl

@[simp] theorem line_atLevel (c : Console) (level : Level) : (c.atLevel level).line = c.line := rfl

/-- The level in force after some calls: the last one set, if any was. -/
def inForce (full : Char → List Char) (c : Console) (before : List Call) : Level :=
  (before.filterMap (·.request.setting? full)).getLast?.getD c.threshold

/-- The lines of the messages that are not below the level in force when they come. -/
def shown (full : Char → List Char) (c : Console) (calls : List Call) : List String :=
  calls.zipIdx.filterMap fun entry =>
    (c.atLevel (c.inForce full (calls.take entry.2))).line? entry.1

inductive Answers (full : Char → List Char) (c : Console) : Call → Except LevelError Reply → Prop
  | set {time : Int} {name : String} {level : Level} (h : cased full name = level.name) :
    c.Answers full ⟨time, .setThreshold name⟩ (.ok ⟨"", none⟩)
  | notSet {time : Int} {name : String} (h : ∀ level : Level, cased full name ≠ level.name) :
    c.Answers full ⟨time, .setThreshold name⟩ (.error (.unknownThreshold name))
  | enabled {time : Int} {level : Level} :
    c.Answers full ⟨time, .isEnabled level.name⟩ (.ok ⟨"", some (decide (c.threshold ≤ level))⟩)
  | notEnabled {time : Int} {name : String} (h : ∀ level : Level, name ≠ level.name) :
    c.Answers full ⟨time, .isEnabled name⟩ (.error (.unknownLevel name))
  | logged {time : Int} {level : Level} {text : String} :
    c.Answers full ⟨time, .log level.name text⟩ (.ok ⟨c.print time level text, none⟩)
  | notLogged {time : Int} {name text : String} (h : ∀ level : Level, name ≠ level.name) :
    c.Answers full ⟨time, .log name text⟩ (.error (.unknownLevel name))
  | message {time : Int} {level : Level} {text : String} :
    c.Answers full ⟨time, .message level text⟩ (.ok ⟨c.print time level text, none⟩)

section

variable (c : Console) (time : Int) (name : String)

theorem answer_setThreshold :
    c.answer ⟨time, .setThreshold name⟩ = (Level.threshold? name).map fun _ => ⟨"", none⟩ := by
  simp only [answer, serve]
  cases Level.threshold? name <;> rfl

theorem answer_isEnabled :
    c.answer ⟨time, .isEnabled name⟩ =
      (Level.named? name).map fun level => ⟨"", some (decide (c.threshold ≤ level))⟩ := by
  simp only [answer, serve]
  cases Level.named? name <;> rfl

theorem answer_log (text : String) :
    c.answer ⟨time, .log name text⟩ =
      (Level.named? name).map fun level => ⟨c.print time level text, none⟩ := by
  simp only [answer, serve]
  cases Level.named? name <;> rfl

end

theorem ofName?_eq_none_iff {s : String} :
    Level.ofName? s = none ↔ ∀ level : Level, s ≠ level.name := by
  simp only [Option.eq_none_iff_forall_ne_some, ne_eq, Level.ofName?_eq_some_iff]

section

variable {full : Char → List Char} (hfull : Uppercases full) (c : Console)

include hfull

theorem ofName?_cased (name : String) :
    Level.ofName? (cased full name) = Level.ofName? (Text.upper name) := by
  ext level
  rw [Level.ofName?_eq_some_iff, Level.ofName?_eq_some_iff,
    cased_eq_iff hfull level.isUpper_name]

theorem next_eq (call : Call) :
    c.next call = c.atLevel ((call.request.setting? full).getD c.threshold) := by
  obtain ⟨time, request⟩ := call
  cases request with
  | setThreshold name =>
    simp only [Request.setting?, ofName?_cased hfull, next, serve, Level.threshold?]
    cases Level.ofName? (Text.upper name) <;> rfl
  | isEnabled name =>
    simp only [Request.setting?, next, serve, Level.named?]
    cases Level.ofName? name <;> rfl
  | log name text =>
    simp only [Request.setting?, next, serve, Level.named?]
    cases Level.ofName? name <;> rfl
  | message level text => rfl

theorem answers_answer (call : Call) : c.Answers full call (c.answer call) := by
  obtain ⟨time, request⟩ := call
  cases request with
  | setThreshold name =>
    have hcased := ofName?_cased hfull name
    rw [answer_setThreshold, Level.threshold?]
    cases hlevel : Level.ofName? (Text.upper name) with
    | some level => exact .set (Level.ofName?_eq_some_iff.mp (hcased.trans hlevel))
    | none => exact .notSet (ofName?_eq_none_iff.mp (hcased.trans hlevel))
  | isEnabled name =>
    rw [answer_isEnabled, Level.named?]
    cases hlevel : Level.ofName? name with
    | some level =>
      obtain rfl := Level.ofName?_eq_some_iff.mp hlevel
      exact .enabled
    | none => exact .notEnabled (ofName?_eq_none_iff.mp hlevel)
  | log name text =>
    rw [answer_log, Level.named?]
    cases hlevel : Level.ofName? name with
    | some level =>
      obtain rfl := Level.ofName?_eq_some_iff.mp hlevel
      exact .logged
    | none => exact .notLogged (ofName?_eq_none_iff.mp hlevel)
  | message level text => exact .message

theorem inForce_cons (call : Call) (before : List Call) :
    c.inForce full (call :: before) = (c.next call).inForce full before := by
  rw [next_eq hfull]
  cases hset : call.request.setting? full with
  | none => simp [inForce, hset]
  | some level => simp [inForce, hset, List.getLast?_cons]

theorem atLevel_next (call : Call) (level : Level) :
    (c.next call).atLevel level = c.atLevel level := by
  rw [next_eq hfull]
  rfl

theorem after_eq (calls : List Call) : c.after calls = c.atLevel (c.inForce full calls) := by
  induction calls generalizing c with
  | nil => rfl
  | cons call rest ih =>
    rw [inForce_cons hfull, ← atLevel_next hfull c call, ← ih]
    rfl

theorem shown_cons (call : Call) (rest : List Call) :
    c.shown full (call :: rest) = (c.line? call).toList ++ (c.next call).shown full rest := by
  have hrest : (rest.zipIdx 1).filterMap (fun entry =>
      (c.atLevel (c.inForce full ((call :: rest).take entry.2))).line? entry.1) =
        (c.next call).shown full rest := by
    rw [shown, ← Nat.zero_add 1, List.zipIdx_succ, List.filterMap_map]
    refine List.filterMap_congr fun entry _ => ?_
    simp only [Function.comp_apply, List.take_succ_cons, inForce_cons hfull, atLevel_next hfull]
  have hfirst : c.atLevel (c.inForce full ((call :: rest).take 0)) = c := rfl
  rw [← hrest, shown, List.zipIdx_cons, List.filterMap_cons, hfirst]
  cases c.line? call <;> rfl

end

theorem getElem?_answers (c : Console) (calls : List Call) (i : Nat) :
    (c.answers calls)[i]? = calls[i]?.map (c.after (calls.take i)).answer := by
  induction calls generalizing c i with
  | nil => rfl
  | cons call rest ih =>
    cases i with
    | zero => rfl
    | succ i => exact ih (c.next call) i

theorem print_eq (c : Console) (time : Int) (level : Level) (text : String) :
    c.print time level text = String.join
      ((if c.threshold ≤ level then some (c.line time level text) else none).toList.map
        (· ++ "\n")) := by
  rw [print]
  by_cases h : c.threshold ≤ level
  · simp [h]
  · simp [h]

theorem printed_answer (c : Console) (call : Call) :
    printed (c.answer call) = String.join ((c.line? call).toList.map (· ++ "\n")) := by
  obtain ⟨time, request⟩ := call
  cases request with
  | setThreshold name =>
    rw [answer_setThreshold]
    cases Level.threshold? name <;> rfl
  | isEnabled name =>
    rw [answer_isEnabled]
    cases Level.named? name <;> rfl
  | log name text =>
    rw [answer_log, line?, Request.message?, Level.named?]
    cases Level.ofName? name with
    | some level => exact c.print_eq time level text
    | none => rfl
  | message level text => exact c.print_eq time level text

theorem output_eq {full : Char → List Char} (hfull : Uppercases full) (c : Console)
    (calls : List Call) :
    c.output calls = String.join ((c.shown full calls).map (· ++ "\n")) := by
  induction calls generalizing c with
  | nil => rfl
  | cons call rest ih =>
    have hfirst : c.output (call :: rest) =
        printed (c.answer call) ++ (c.next call).output rest := by
      simp [output, answers]
    rw [hfirst, shown_cons hfull, List.map_append, String.join_append, ih, printed_answer]

theorem line?_sublist (c : Console) {high : Level} (h : c.threshold ≤ high) (call : Call) :
    ((c.atLevel high).line? call).toList.Sublist (c.line? call).toList := by
  unfold line?
  cases call.request.message? with
  | none => exact List.Sublist.refl _
  | some said =>
    by_cases hhigh : high ≤ said.1
    · have hlow : c.threshold ≤ said.1 := Nat.le_trans h hhigh
      simp [hhigh, hlow]
    · simp [hhigh]

theorem shown_sublist {full : Char → List Char} (hfull : Uppercases full) (c : Console)
    {high : Level} (calls : List Call)
    (h : ∀ i < calls.length, c.inForce full (calls.take i) ≤ high) :
    ((c.atLevel high).shown full (calls.filter (·.request.isMessage))).Sublist
      (c.shown full calls) := by
  induction calls generalizing c with
  | nil => exact List.Sublist.refl _
  | cons call rest ih =>
    have hnow : c.threshold ≤ high := h 0 (Nat.zero_lt_succ _)
    have hrest := ih (c.next call) fun i hi => by
      rw [← inForce_cons hfull]
      exact h (i + 1) (Nat.succ_lt_succ hi)
    rw [atLevel_next hfull] at hrest
    rw [shown_cons hfull]
    cases hmessage : call.request.isMessage with
    | false =>
      have hnone : c.line? call = none := by
        rw [line?, Request.message?_of_not_isMessage hmessage]
        rfl
      rw [List.filter_cons_of_neg (by simp [hmessage]), hnone]
      exact hrest
    | true =>
      have hkept : (c.atLevel high).next call = c.atLevel high := by
        rw [next_eq hfull, Request.setting?_of_isMessage hmessage]
        rfl
      rw [List.filter_cons_of_pos (by simp [hmessage]), shown_cons hfull, hkept]
      exact (c.line?_sublist hnow call).append hrest

/-- The text of a console is made of the messages that are not below the level in force. That level
changes with every request whose text is the name of one in upper case, by the full case mapping,
and with nothing else; what is refused is refused for its name. At a level that is never lower, the
same messages give some of the same lines. -/
theorem calls_by_level {full : Char → List Char} (hfull : Uppercases full) (c : Console)
    (calls : List Call) :
    c.output calls = String.join ((c.shown full calls).map (· ++ "\n")) ∧
    c.after calls = c.atLevel (c.inForce full calls) ∧
    (∀ i call, calls[i]? = some call → ∃ reply, (c.answers calls)[i]? = some reply ∧
      (c.atLevel (c.inForce full (calls.take i))).Answers full call reply) ∧
    ∀ high, (∀ i < calls.length, c.inForce full (calls.take i) ≤ high) →
      let replayed := calls.filter (·.request.isMessage)
      (c.atLevel high).output replayed =
          String.join (((c.atLevel high).shown full replayed).map (· ++ "\n")) ∧
        ((c.atLevel high).shown full replayed).Sublist (c.shown full calls) := by
  refine ⟨output_eq hfull c calls, after_eq hfull c calls, ?_, ?_⟩
  · intro i call hcall
    refine ⟨_, ?_, answers_answer hfull _ call⟩
    rw [getElem?_answers, hcall, after_eq hfull]
    rfl
  · intro high h replayed
    exact ⟨output_eq hfull _ replayed, shown_sublist hfull c calls h⟩

/-- Messages and two settings, of which one spells its level with a dotless `ı` and the other is
refused. -/
def unsettled : List Call :=
  [⟨0, .message .debug "one"⟩, ⟨1, .setThreshold "warnıng"⟩, ⟨2, .message .info "two"⟩,
    ⟨3, .log "ERROR" "three"⟩, ⟨4, .log "error" "four"⟩, ⟨5, .setThreshold "loud"⟩,
    ⟨6, .isEnabled "INFO"⟩, ⟨7, .message .critical "five"⟩]

theorem calls_by_level_unsettled :
    let c : Console := { timestamps := false }
    Uppercases Text.upperChar ∧
      c.output unsettled = "[   ERROR][chipax] three\n[CRITICAL][chipax] five\n" ∧
      (c.after unsettled).threshold = .warning ∧
      (∀ i < unsettled.length, c.inForce Text.upperChar (unsettled.take i) ≤ .critical) ∧
      ["[CRITICAL][chipax] five"].Sublist (c.shown Text.upperChar unsettled) := by
  intro c
  have hfull : Uppercases Text.upperChar := fun _ _ => rfl
  have hforce : ∀ i < unsettled.length,
      c.inForce Text.upperChar (unsettled.take i) ≤ .critical := by decide +kernel
  obtain ⟨houtput, hafter, -, hreplay⟩ := calls_by_level hfull c unsettled
  refine ⟨hfull, houtput.trans ?_, ?_, hforce, ?_⟩
  · decide +kernel
  · rw [hafter]
    decide +kernel
  · exact (hreplay .critical hforce).2

end Console

end Chip8
