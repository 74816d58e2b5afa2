import Chip8.CommandLine.Parse
import Chip8.Proofs.Checks
import Mathlib.Data.List.Chain

/-! A setting is left blank only by a terminator that is attached to its flag. As a word of its
own a terminator is never the value of a flag. -/

namespace Chip8

namespace CommandLine

/-- No setting is blank. -/
structure Options.Filled (o : Options) : Prop where
  scale : o.scale ≠ .blank
  fps : o.fps ≠ .blank
  scheme : o.scheme ≠ .blank
  seed : o.seed? ≠ some .blank
  level : o.level ≠ .blank
  cycles : o.cycles? ≠ some .blank

theorem Options.filled_default : ({} : Options).Filled := by
  constructor <;> simp

theorem Entry.eq_of_ofText_bind {ε α β : Type} {read : String → Except ε α} {text : String}
    {set : Entry α → β} {b : β} (h : (do return set (← ofText read text)) = .ok b)
    (htext : text ≠ terminator) : ∃ entry, entry ≠ .blank ∧ b = set entry := by
  obtain ⟨entry, hentry, hset⟩ := bind_eq_ok_iff.mp h
  refine ⟨entry, ?_, (Except.ok.inj hset).symm⟩
  rintro rfl
  exact htext ((ofText_eq_blank_iff read text).mp hentry)

theorem Flag.assign_filled {flag : Flag} {text : String} {o new : Options}
    (h : flag.assign text o = .ok new) (htext : text ≠ terminator) (ho : o.Filled) :
    new.Filled := by
  cases flag with
  | help =>
    obtain rfl : o = new := Except.ok.inj h
    exact ho
  | scale =>
    obtain ⟨entry, hentry, rfl⟩ := Entry.eq_of_ofText_bind h htext
    exact { ho with scale := hentry }
  | fps =>
    obtain ⟨entry, hentry, rfl⟩ := Entry.eq_of_ofText_bind h htext
    exact { ho with fps := hentry }
  | colorScheme =>
    obtain ⟨entry, hentry, rfl⟩ := Entry.eq_of_ofText_bind h htext
    exact { ho with scheme := hentry }
  | seed =>
    obtain ⟨entry, hentry, rfl⟩ := Entry.eq_of_ofText_bind h htext
    exact { ho with seed := fun hblank => hentry (Option.some.inj hblank) }
  | logLevel =>
    obtain ⟨entry, hentry, rfl⟩ := Entry.eq_of_ofText_bind h htext
    exact { ho with level := hentry }
  | cycles =>
    obtain ⟨entry, hentry, rfl⟩ := Entry.eq_of_ofText_bind h htext
    exact { ho with cycles := fun hblank => hentry (Option.some.inj hblank) }

namespace Word

theorem ofOther_eq (text : String) :
    ofOther text = .value text ∨ ofOther text = .unknown text := by
  unfold ofOther
  split
  · exact .inl rfl
  · exact .inr rfl

theorem ofLong_eq_ok {text : String} {word : Word} (h : ofLong text = .ok word) :
    word = ofOther text ∨ ∃ flag attached?, word = .flag flag false attached? ∧
      ∀ value ∈ attached?, '=' :: value.toList <:+ text.toList := by
  unfold ofLong at h
  dsimp only at h
  split at h
  case h_1 => exact .inl (Except.ok.inj h).symm
  case h_2 only _ =>
    refine .inr ⟨only, _, (Except.ok.inj h).symm, ?_⟩
    intro value hvalue
    split at hvalue
    case h_1 => cases hvalue
    case h_2 c rest hrest =>
      obtain rfl := Option.some.inj hvalue
      have hc : c = '=' := by
        have hhead := List.head?_dropWhile_not (· != '=') text.toList
        simpa [hrest] using hhead
      rw [String.toList_ofList, ← hc, ← hrest]
      exact List.dropWhile_suffix _
  case h_3 => cases h

/-- What becomes of a text before the terminator. -/
theorem ofText_eq_ok {text : String} {word : Word} (h : ofText text = .ok word) :
    word = .value text ∨ word = .unknown text ∨
      (∃ attached?, word = .flag .help true attached?) ∨
      ∃ flag attached?, word = .flag flag false attached? ∧
        ∀ value ∈ attached?, '=' :: value.toList <:+ text.toList := by
  unfold ofText at h
  split at h
  case h_1 =>
    rcases ofLong_eq_ok h with rfl | hflag
    · rcases ofOther_eq text with hword | hword
      · exact .inl hword
      · exact .inr (.inl hword)
    · exact .inr (.inr (.inr hflag))
  case h_5 =>
    obtain rfl := Except.ok.inj h
    rcases ofOther_eq text with hword | hword
    · exact .inl hword
    · exact .inr (.inl hword)
  case h_6 => exact .inl (Except.ok.inj h).symm
  all_goals exact .inr (.inr (.inl ⟨_, (Except.ok.inj h).symm⟩))

/-- No flag but the one for help is given a terminator. -/
structure Unblanked (words : List Word) : Prop where
  attached : ∀ flag short,
    .flag flag short (some CommandLine.terminator) ∈ words → flag = .help
  next : words.IsChain fun first second =>
    ∀ flag short, first = .flag flag short none → second ≠ .value CommandLine.terminator

theorem Unblanked.tail {word : Word} {rest : List Word} (h : Unblanked (word :: rest)) :
    Unblanked rest :=
  ⟨fun flag short hmem => h.attached flag short (List.mem_cons_of_mem _ hmem), h.next.tail⟩

theorem unblanked_values (texts : List String) : Unblanked (texts.map .value) := by
  refine ⟨fun flag short hmem => by simp at hmem, ?_⟩
  rw [List.isChain_map]
  exact (List.pairwise_of_forall fun _ _ => by simp).isChain

theorem ofTexts_terminator (rest : List String) :
    ofTexts (CommandLine.terminator :: rest) = .ok (.terminator :: rest.map .value) :=
  if_pos rfl

theorem ofTexts_cons {text : String} {rest : List String} {words : List Word}
    (h : ofTexts (text :: rest) = .ok words) (htext : text ≠ CommandLine.terminator) :
    ∃ word others, ofText text = .ok word ∧ ofTexts rest = .ok others ∧
      words = word :: others := by
  rw [ofTexts, if_neg htext] at h
  obtain ⟨word, hword, hrest⟩ := bind_eq_ok_iff.mp h
  obtain ⟨others, hothers, hwords⟩ := bind_eq_ok_iff.mp hrest
  exact ⟨word, others, hword, hothers, (Except.ok.inj hwords).symm⟩

theorem head?_ofTexts {texts : List String} {words : List Word} (h : ofTexts texts = .ok words) :
    words.head? ≠ some (.value CommandLine.terminator) := by
  cases texts with
  | nil =>
    obtain rfl := Except.ok.inj h
    simp
  | cons text rest =>
    by_cases htext : text = CommandLine.terminator
    · subst htext
      obtain rfl := Except.ok.inj ((ofTexts_terminator rest).symm.trans h)
      simp
    · obtain ⟨word, others, hword, -, rfl⟩ := ofTexts_cons h htext
      rintro ⟨⟩
      rcases ofText_eq_ok hword with hvalue | hunknown | ⟨_, hhelp⟩ | ⟨_, _, hflag, -⟩
      · exact htext (Word.value.inj hvalue).symm
      · cases hunknown
      · cases hhelp
      · cases hflag

theorem unblanked_ofTexts {texts : List String} {words : List Word}
    (h : ofTexts texts = .ok words) (htexts : ∀ text ∈ texts, ¬ ['=', '-', '-'] <:+ text.toList) :
    Unblanked words := by
  induction texts generalizing words with
  | nil =>
    obtain rfl := Except.ok.inj h
    exact unblanked_values []
  | cons text rest ih =>
    by_cases htext : text = CommandLine.terminator
    · subst htext
      obtain rfl := Except.ok.inj ((ofTexts_terminator rest).symm.trans h)
      refine ⟨by simp, List.isChain_cons.mpr ⟨?_, (unblanked_values rest).next⟩⟩
      rintro second - flag short ⟨⟩
    · obtain ⟨word, others, hword, hothers, rfl⟩ := ofTexts_cons h htext
      have hrest := ih hothers fun t ht => htexts t (List.mem_cons_of_mem _ ht)
      refine ⟨?_, List.isChain_cons.mpr ⟨?_, hrest.next⟩⟩
      · intro flag short hmem
        rcases List.mem_cons.mp hmem with rfl | hmem
        · rcases ofText_eq_ok hword with hvalue | hunknown | ⟨_, hhelp⟩ | ⟨_, _, hflag, hends⟩
          · cases hvalue
          · cases hunknown
          · cases hhelp
            rfl
          · cases hflag
            exact absurd (hends _ rfl) (htexts text List.mem_cons_self)
        · exact hrest.attached flag short hmem
      · rintro second hsecond - - - rfl
        exact head?_ofTexts hothers hsecond

end Word

namespace Draft

theorem assign_filled {d assigned : Draft} {flag : Flag} {text : String}
    (h : d.assign flag text = .ok assigned) (htext : text ≠ terminator) (hd : d.options.Filled) :
    assigned.options.Filled := by
  unfold assign at h
  split at h
  case h_1 hoptions =>
    obtain rfl := Except.ok.inj h
    exact Flag.assign_filled hoptions htext hd
  case h_2 => cases h

theorem read_filled {d new : Draft} {words : List Word} (h : d.read words = .ok new)
    (hwords : Word.Unblanked words) (hd : d.options.Filled) : new.options.Filled := by
  -- Whatever has been read, the words that are left are unblanked too.
  fun_induction Draft.read d words
  case case1 =>
    obtain rfl := Except.ok.inj h
    exact hd
  case case2 => cases h
  case case3 flag short text rest hflag ih =>
    obtain ⟨assigned, hassigned, hrest⟩ := bind_eq_ok_iff.mp h
    refine ih assigned hrest hwords.tail (assign_filled hassigned ?_ hd)
    rintro rfl
    exact hflag (hwords.attached flag short List.mem_cons_self)
  case case4 flag short text rest _ ih =>
    obtain ⟨assigned, hassigned, hrest⟩ := bind_eq_ok_iff.mp h
    refine ih assigned hrest hwords.tail.tail (assign_filled hassigned ?_ hd)
    rintro rfl
    exact (List.isChain_cons_cons.mp hwords.next).1 flag short rfl rfl
  case case5 => cases h
  case case7 ih => exact ih h hwords.tail.tail hd
  case case8 ih => exact ih h hwords.tail.tail hd
  case case11 ih => exact ih h hwords.tail.tail hd
  case case12 ih => exact ih h hwords.tail.tail hd
  all_goals rename_i ih; exact ih h hwords.tail hd

end Draft

/-- A setting that is blank has a word of the command line that ends in an attached terminator. -/
theorem parse_filled {arguments : List String} {settings : Settings}
    (h : parse arguments = .ok settings)
    (harguments : ∀ text ∈ arguments, ¬ ['=', '-', '-'] <:+ text.toList) :
    settings.toOptions.Filled := by
  unfold parse at h
  split at h
  case h_1 => cases h
  case h_2 words hwords =>
    obtain ⟨d, hd, hfinish⟩ := bind_eq_ok_iff.mp h
    have hfilled := Draft.read_filled hd (Word.unblanked_ofTexts hwords harguments)
      Options.filled_default
    unfold Draft.finish at hfinish
    split at hfinish
    case h_1 => cases hfinish
    case h_2 =>
      obtain rfl := Except.ok.inj hfinish
      exact hfilled
    case h_3 => cases hfinish

end CommandLine

end Chip8
