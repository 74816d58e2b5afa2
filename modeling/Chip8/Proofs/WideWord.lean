import Chip8.Proofs.UnknownOpcode

/-! Words given as numbers of thirty-two bits. The fields see the low sixteen bits alone, and so
does every instruction but the two that are told from the whole number. -/

namespace Chip8

namespace Instruction

theorem ofInt_emod (word : Int) :
    Fields.ofInt (word % 0x10000) = { Fields.ofInt word with raw := word % 0x10000 } := by
  have hbyte : word % 0x10000 % 256 = word % 256 := by omega
  have haddress : word % 0x10000 % 4096 = word % 4096 := by omega
  simp only [Fields.ofInt, nibble, Int.shiftRight_eq_div_pow, hbyte, haddress, Fields.mk.injEq,
    Fin.mk.injEq, true_and, and_true]
  omega

/-- The same instruction, but for the number that an unknown one is reported with. -/
def withRaw (raw : Int) : Instruction → Instruction
  | unknown _ => unknown raw
  | i => i

theorem ofKeySkip_withRaw (f : Fields) (raw : Int) :
    ofKeySkip { f with raw } = (ofKeySkip f).withRaw raw := by
  unfold ofKeySkip
  split <;> simp_all [withRaw]

theorem ofMiscellaneous_withRaw (f : Fields) (raw : Int) :
    ofMiscellaneous { f with raw } = (ofMiscellaneous f).withRaw raw := by
  unfold ofMiscellaneous
  split <;> simp_all [withRaw]

theorem ofFields_withRaw {f : Fields} (hopcode : f.opcode.val ≠ 0) (raw : Int) :
    ofFields { f with raw } = (ofFields f).withRaw raw := by
  unfold ofFields
  split
  case h_1 h => exact absurd h hopcode
  case h_9 h =>
    have hcompute : f.opcode.val = 8 := h
    simp only [hcompute]
    cases Operation.ofNibble? f.n <;> rfl
  case h_15 h =>
    have hkey : f.opcode.val = 14 := h
    simp only [hkey, ofKeySkip_withRaw]
  case h_16 => simp_all [ofMiscellaneous_withRaw]
  all_goals simp_all [withRaw]

/-- The words of the system instructions. -/
def systemWords : List Int := [0x00E0, 0x00EE]

theorem ofSystem_of_not_mem {raw : Int} (h : raw ∉ systemWords) : ofSystem raw = unknown raw := by
  rw [systemWords, List.mem_pair, not_or] at h
  rw [ofSystem, if_neg h.1, if_neg h.2]

theorem not_mem_systemWords_of_emod {word : Int} (h : word % 0x10000 ∉ systemWords) :
    word ∉ systemWords := by
  rw [systemWords, List.mem_pair] at h ⊢
  omega

theorem ofInt_eq_withRaw {word : Int} (h : word % 0x10000 ∉ systemWords) :
    ofInt word = (ofInt (word % 0x10000)).withRaw word := by
  have hfields : Fields.ofInt word = { Fields.ofInt (word % 0x10000) with raw := word } := by
    rw [ofInt_emod]
    rfl
  rw [ofInt, hfields]
  by_cases hopcode : (Fields.ofInt (word % 0x10000)).opcode.val = 0
  · have hwide := ofSystem_of_not_mem (not_mem_systemWords_of_emod h)
    have hnarrow : ofInt (word % 0x10000) = unknown (word % 0x10000) := by
      rw [← ofSystem_of_not_mem h]
      simp only [ofInt, ofFields, hopcode]
      rfl
    rw [hnarrow, withRaw, ← hwide]
    simp only [ofFields, hopcode]
  · exact ofFields_withRaw hopcode word

theorem ofInt_of_emod_mem {word : Int} (h : word % 0x10000 ∈ systemWords)
    (hwide : word ≠ word % 0x10000) : ofInt word = unknown word := by
  rw [systemWords, List.mem_pair] at h
  have hopcode : (Fields.ofInt word).opcode.val = 0 := by
    simp only [Fields.ofInt, nibble, Int.shiftRight_eq_div_pow]
    omega
  have hother : word ∉ systemWords := by
    rw [systemWords, List.mem_pair]
    omega
  rw [← ofSystem_of_not_mem hother]
  simp only [ofInt, ofFields, hopcode]
  rfl

end Instruction

/-- The lines that a log at some level shows of a step. -/
def Step.log (s : Step) (level : Level) : List String :=
  Run.log ⟨s.machine, s.warning?.toArray⟩ level

theorem Step.log_eq (s : Step) (level : Level) :
    s.log level =
      if level ≤ .warning then (s.warning?.map fun w => (Notice.unknownOpcode w).text).toList
      else [] := by
  have hlevel (w : Warning) : (Notice.unknownOpcode w).level = .warning := rfl
  unfold Step.log Run.log
  cases s.warning? with
  | none => simp
  | some w => by_cases h : level ≤ .warning <;> simp [hlevel, h]

namespace Machine

open Instruction (systemWords withRaw ofInt_eq_withRaw ofInt_of_emod_mem)

variable (m : Machine)

theorem executeInt_eq_ok {word : Int} (h : -0x80000000 ≤ word ∧ word < 0x80000000) :
    m.executeInt word = .ok (m.execute (.ofInt word)) :=
  if_pos h

theorem execute_withRaw (i : Instruction) (raw : Int) :
    m.execute (i.withRaw raw) =
      ⟨(m.execute i).machine, (m.execute i).warning?.map fun w => { w with raw }⟩ := by
  cases i <;> rfl

/-- A number does what its low sixteen bits do, and only a warning tells the two apart. The
exceptions are the two system instructions: no wider number is one of them. -/
theorem wide_words {word : Int} (hword : -0x80000000 ≤ word ∧ word < 0x80000000) :
    let low := word % 0x10000
    ∃ wide narrow, m.executeInt word = .ok wide ∧ m.executeInt low = .ok narrow ∧
      (low ∉ systemWords →
        wide.machine = narrow.machine ∧
          wide.warning? = narrow.warning?.map (fun w => { w with raw := word }) ∧
          ∀ level, (wide.log level).length = (narrow.log level).length) ∧
      (low ∈ systemWords → word ≠ low →
        wide.machine = { m with pc := m.pc - 2, stalled := true } ∧
          wide.warning? = some ⟨word, m.pc - 2⟩ ∧
          ∀ level ≤ .warning, wide.log level =
            ["Unknown opcode 0x" ++ Text.hexPadded 4 word ++
              " at 0x" ++ Text.hexPadded 3 (m.pc - 2).toNat]) := by
  intro low
  refine ⟨_, _, m.executeInt_eq_ok hword, m.executeInt_eq_ok (by omega), ?_, ?_⟩
  · intro hlow
    have hwarning : (m.execute (.ofInt word)).warning? =
        (m.execute (.ofInt low)).warning?.map fun w => { w with raw := word } := by
      rw [ofInt_eq_withRaw hlow, execute_withRaw]
    refine ⟨?_, hwarning, fun level => ?_⟩
    · rw [ofInt_eq_withRaw hlow, execute_withRaw]
    · rw [Step.log_eq, Step.log_eq, hwarning]
      cases (m.execute (.ofInt low)).warning? <;> split <;> rfl
  · intro hlow hwide
    rw [ofInt_of_emod_mem hlow hwide]
    refine ⟨rfl, rfl, fun level hlevel => ?_⟩
    rw [Step.log_eq, if_pos hlevel]
    rfl

theorem wide_words_cleared :
    let m := create 0
    (-0x80000000 ≤ (-0x9FFB : Int) ∧ (-0x9FFB : Int) < 0x80000000) ∧
      (-0x9FFB : Int) % 0x10000 = 0x6005 ∧ 0x6005 ∉ systemWords ∧
      (∃ wide narrow, m.executeInt (-0x9FFB) = .ok wide ∧ m.executeInt 0x6005 = .ok narrow ∧
        wide.machine = narrow.machine ∧ wide.machine.registers.get 0 = 5) ∧
      (-0x80000000 ≤ (0x100E0 : Int) ∧ (0x100E0 : Int) < 0x80000000) ∧
      (0x100E0 : Int) % 0x10000 = 0x00E0 ∧ 0x00E0 ∈ systemWords ∧ (0x100E0 : Int) ≠ 0x00E0 ∧
      Level.info ≤ .warning ∧
      ∃ wide, m.executeInt 0x100E0 = .ok wide ∧
        wide.machine = { m with pc := m.pc - 2, stalled := true } ∧ m.pc - 2 = 0x1FE ∧
        wide.log .info = ["Unknown opcode 0x100E0 at 0x1FE"] := by
  intro m
  have hset : -0x80000000 ≤ (-0x9FFB : Int) ∧ (-0x9FFB : Int) < 0x80000000 := by decide
  have hclear : -0x80000000 ≤ (0x100E0 : Int) ∧ (0x100E0 : Int) < 0x80000000 := by decide
  obtain ⟨wide, narrow, hwide, hnarrow, hsame, -⟩ := wide_words m hset
  obtain ⟨held, _, hheld, -, -, hunknown⟩ := wide_words m hclear
  have hother : (0x6005 : Int) ∉ systemWords := by decide
  have hsystem : (0x00E0 : Int) ∈ systemWords := by decide
  have hne : (0x100E0 : Int) ≠ 0x00E0 := by decide
  obtain ⟨hmachine, -, hlog⟩ := hunknown hsystem hne
  refine ⟨hset, rfl, hother, ⟨wide, narrow, hwide, hnarrow, (hsame hother).1, ?_⟩, hclear, rfl,
    hsystem, hne, by decide, held, hheld, hmachine, by decide,
    (hlog .info (by decide)).trans (by decide +kernel)⟩
  rw [m.executeInt_eq_ok hset] at hwide
  obtain rfl := Except.ok.inj hwide
  decide +kernel

end Machine

end Chip8
