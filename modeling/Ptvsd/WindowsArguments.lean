import Mathlib.Data.List.DropRight
import Mathlib.Data.List.Infix

/-!
# Command Lines of Windows

A process on Windows gets its arguments as one string. When a debuggee starts a process with such a
string, the string is split into arguments, these are changed, and then quoted and joined again. The
splitting and the quoting are those of `pydev_monkey`: `str_to_args_windows` and `quote_arg_win32`.

## Main results

* `strToArgsWindows_join`: **what is quoted and joined is split into the same arguments**, if and
  only if no argument ends with a backslash and a newline, and the last one, unless it is quoted,
  does not end with a backslash.
-/

namespace Ptvsd

namespace WindowsArguments

/-- A string. -/
abbrev Text := List Char

/-! ### Quoting -/

/-- The characters for which an argument is quoted. -/
def special : Text := [' ', '"', '\t', '\n', '\x0b']

/-- The argument is to be quoted. -/
def NeedsQuotes (arg : Text) : Prop := arg = [] ∨ ∃ c ∈ arg, c ∈ special

instance : DecidablePred NeedsQuotes := fun arg =>
  inferInstanceAs (Decidable (arg = [] ∨ ∃ c ∈ arg, c ∈ special))

/-- The first substitution: a quotation mark gets a backslash, and those before it are doubled. That
many backslashes come before the text. -/
def escapeQuotes : ℕ → Text → Text
  | n, [] => List.replicate n '\\'
  | n, c :: cs =>
      if c = '\\' then escapeQuotes (n + 1) cs
      else if c = '"' then List.replicate (2 * n + 1) '\\' ++ '"' :: escapeQuotes 0 cs
      else List.replicate n '\\' ++ c :: escapeQuotes 0 cs

/-- The backslashes at the end are doubled. -/
def doubleTrailing (s : Text) : Text := s ++ s.rtakeWhile (· = '\\')

/-- The second substitution; its `$` also matches before a newline at the end. -/
def doubleAtEnd (s : Text) : Text :=
  if s.getLast? = some '\n' then doubleTrailing s.dropLast ++ ['\n'] else doubleTrailing s

/-- `quote_arg_win32`: quotes only where they are needed. -/
def quoteArgWin32 (arg : Text) : Text :=
  if NeedsQuotes arg then '"' :: doubleAtEnd (escapeQuotes 0 arg) ++ ['"'] else arg

/-- `' '.join(…)`. -/
def join (args : List Text) : Text := [' '].intercalate args

/-! ### Splitting -/

/-- The `state` of the loop. -/
inductive Mode where
  | default
  | arg
  | inDoubleQuote
  deriving DecidableEq

/-- An argument begins, at the latest. -/
def Mode.begin : Mode → Mode
  | .default => .arg
  | mode => mode

/-- The variables of the loop. -/
structure Splitter where
  result : List Text
  mode : Mode
  backslashes : ℕ
  buf : Text
  deriving DecidableEq

namespace Splitter

/-- Before an argument. -/
def between (result : List Text) : Splitter := ⟨result, .default, 0, []⟩

/-- What is done with a character that is no backslash, the backslashes before it having been dealt
with. The increment of the loop variable behind the second quotation mark has no effect. -/
def switch (p : Splitter) (c : Char) (next : Option Char) : Splitter :=
  if (c = ' ' ∨ c = '\t') ∧ p.mode = .default then p
  else if (c = ' ' ∨ c = '\t') ∧ p.mode = .arg then
    { p with mode := .default, result := p.result ++ [p.buf], buf := [] }
  else if p.mode = .inDoubleQuote then
    if c = '"' then
      if next = some '"' then { p with buf := p.buf ++ ['"'] } else { p with mode := .arg }
    else { p with buf := p.buf ++ [c] }
  else if c = '"' then { p with mode := .inDoubleQuote }
  else { p with mode := .arg, buf := p.buf ++ [c] }

/-- One iteration, with the character and the one that follows it. -/
def step (p : Splitter) (c : Char) (next : Option Char) : Splitter :=
  if c = '\\' then { p with backslashes := p.backslashes + 1 }
  else if p.backslashes = 0 then p.switch c next
  else if c = '"' then
    let p' := { p with
      buf := p.buf ++ List.replicate (p.backslashes / 2) '\\'
      backslashes := 0 }
    if p.backslashes % 2 = 1 then { p' with mode := p.mode.begin, buf := p'.buf ++ ['"'] }
    else p'.switch c next
  else
    { p with
      mode := p.mode.begin
      buf := p.buf ++ List.replicate p.backslashes '\\'
      backslashes := 0 }.switch c next

/-- The loop. -/
def run : Splitter → Text → Splitter
  | p, [] => p
  | p, c :: cs => run (p.step c cs.head?) cs

/-- What is returned in the end. -/
def finish (p : Splitter) : List Text :=
  if p.buf ≠ [] ∨ p.mode ≠ .default then p.result ++ [p.buf] else p.result

end Splitter

/-- `str_to_args_windows`: the loop starts between two arguments. -/
def strToArgsWindows (args : Text) : List Text := ((Splitter.between []).run args).finish

/-! ### What is read of a quoted argument -/

/-- What is between the quotation marks, with that many backslashes before the text. -/
def body : ℕ → Text → Text
  | n, [] => List.replicate (2 * n) '\\'
  | n, c :: cs =>
      if c = '\\' then body (n + 1) cs
      else if c = '"' then List.replicate (2 * n + 1) '\\' ++ '"' :: body 0 cs
      else if c = '\n' ∧ cs = [] then List.replicate (2 * n) '\\' ++ ['\n']
      else List.replicate n '\\' ++ c :: body 0 cs

/-- What is read of it: backslashes before a newline at the end are read twice. -/
def decoded : ℕ → Text → Text
  | n, [] => List.replicate n '\\'
  | n, c :: cs =>
      if c = '\\' then decoded (n + 1) cs
      else if c = '\n' ∧ cs = [] then List.replicate (2 * n) '\\' ++ ['\n']
      else List.replicate n '\\' ++ c :: decoded 0 cs

variable {n : ℕ} {c : Char} {s t w arg : Text} {res : List Text} {p : Splitter}

theorem escapeQuotes_ne_nil (hs : s ≠ []) : escapeQuotes n s ≠ [] := by
  induction s generalizing n with
  | nil => exact absurd rfl hs
  | cons c cs ih =>
      rw [escapeQuotes]
      split_ifs
      · cases cs with
        | nil => simp [escapeQuotes]
        | cons d ds => exact ih (by simp)
      · simp
      · simp

theorem doubleTrailing_cons (hc : c ≠ '\\') :
    doubleTrailing (t ++ c :: s) = t ++ c :: doubleTrailing s := by
  have htake : (t ++ c :: s).rtakeWhile (· = '\\') = s.rtakeWhile (· = '\\') := by
    induction s using List.reverseRecOn with
    | nil => exact List.rtakeWhile_concat_neg _ _ _ (by simpa using hc)
    | append_singleton s d ih =>
        rw [← List.cons_append, ← List.append_assoc, List.rtakeWhile_concat,
          List.rtakeWhile_concat, ih]
  simp [doubleTrailing, htake]

theorem doubleTrailing_replicate :
    doubleTrailing (List.replicate n '\\') = List.replicate (2 * n) '\\' := by
  have htake : (List.replicate n '\\').rtakeWhile (· = '\\') = List.replicate n '\\' :=
    List.rtakeWhile_eq_self_iff.mpr (by simp)
  rw [doubleTrailing, htake, Nat.two_mul, List.replicate_add]

/-- What comes before a character, other than a backslash, that is not at the end. -/
theorem doubleAtEnd_cons (hc : c ≠ '\\') (hend : c ≠ '\n' ∨ s ≠ []) :
    doubleAtEnd (t ++ c :: s) = t ++ c :: doubleAtEnd s := by
  rcases eq_or_ne s [] with rfl | hs
  · have hne : c ≠ '\n' := hend.resolve_right (by simp)
    simp [doubleAtEnd, hne, doubleTrailing_cons hc]
  · have hlast : (t ++ c :: s).getLast? = s.getLast? := by
      simp [List.getLast?_append, List.getLast?_cons, List.getLast?_eq_some_getLast hs]
    have hdrop : (t ++ c :: s).dropLast = t ++ c :: s.dropLast := by
      rw [List.dropLast_append_of_ne_nil (by simp), List.dropLast_cons_of_ne_nil hs]
    rw [doubleAtEnd, hlast, hdrop, doubleAtEnd]
    split_ifs
    · rw [doubleTrailing_cons hc, List.append_assoc, List.cons_append]
    · exact doubleTrailing_cons hc

theorem doubleAtEnd_escapeQuotes (n : ℕ) (s : Text) :
    doubleAtEnd (escapeQuotes n s) = body n s := by
  induction s generalizing n with
  | nil =>
      have hlast : (List.replicate n '\\').getLast? ≠ some '\n' := by
        intro h
        simpa using List.eq_of_mem_replicate (List.mem_of_getLast? h)
      rw [escapeQuotes, doubleAtEnd, if_neg hlast, doubleTrailing_replicate, body]
  | cons c cs ih =>
      rw [escapeQuotes, body]
      split_ifs with hslash hquote hend
      · exact ih (n + 1)
      · rw [doubleAtEnd_cons (by simp) (.inl (by simp)), ih]
      · obtain ⟨rfl, rfl⟩ := hend
        simp [escapeQuotes, doubleAtEnd, doubleTrailing_replicate]
      · rw [doubleAtEnd_cons hslash, ih]
        exact (em (c = '\n')).symm.imp_right fun hc =>
          escapeQuotes_ne_nil fun hcs => hend ⟨hc, hcs⟩

/-- A character other than a backslash keeps what is before it out of the question. -/
theorem suffix_append_cons (hslash : c ≠ '\\') (hend : c = '\n' → s ≠ []) :
    ['\\', '\n'] <:+ t ++ c :: s ↔ ['\\', '\n'] <:+ s := by
  induction t with
  | nil =>
      rw [List.nil_append, List.suffix_cons_iff, or_iff_right]
      exact fun h => hslash (List.cons.inj h).1.symm
  | cons d ds ih =>
      rw [List.cons_append, List.suffix_cons_iff, ih, or_iff_right]
      intro h
      have htail : ['\n'] = ds ++ c :: s := (List.cons.inj h).2
      rcases ds with - | ⟨e, es⟩
      · exact hend (List.cons.inj htail).1.symm (List.cons.inj htail).2.symm
      · simp at htail

/-- What a quoted argument is read as is the argument, except that backslashes before a newline at
its end are read twice. -/
theorem decoded_iff : decoded n s = List.replicate n '\\' ++ s ↔
    ¬ ['\\', '\n'] <:+ List.replicate n '\\' ++ s := by
  induction s generalizing n with
  | nil =>
      refine iff_of_true (by simp [decoded]) fun h => ?_
      have hmem : '\n' ∈ List.replicate n '\\' ++ [] := h.subset (by simp)
      simp at hmem
  | cons c cs ih =>
      rw [decoded]
      split_ifs with hslash hend
      · have hshift : List.replicate (n + 1) '\\' ++ cs = List.replicate n '\\' ++ c :: cs := by
          rw [List.replicate_succ', hslash, List.append_assoc, List.singleton_append]
        rw [← hshift, ih]
      · obtain ⟨rfl, rfl⟩ := hend
        cases n with
        | zero => simp [List.suffix_cons_iff]
        | succ n =>
            refine iff_of_false (fun h => ?_) (not_not_intro ⟨List.replicate n '\\', ?_⟩)
            · have := congrArg List.length h
              simp only [List.length_append, List.length_replicate] at this
              omega
            · rw [List.replicate_succ', List.append_assoc, List.singleton_append]
      · rw [suffix_append_cons hslash (not_and.mp hend), List.append_cancel_left_eq,
          List.cons.injEq, eq_self_iff_true, true_and]
        simpa using ih (n := 0)

/-! ### How it is read -/

namespace Splitter

variable {mode : Mode} {k : ℕ} {buf : Text} {next : Option Char}

theorem run_backslashes (n : ℕ) :
    run ⟨res, mode, k, buf⟩ (List.replicate n '\\' ++ t) = run ⟨res, mode, k + n, buf⟩ t := by
  induction n generalizing k with
  | zero => rfl
  | succ n ih =>
      rw [List.replicate_succ, List.cons_append, run, step, if_pos rfl, ih]
      congr 2
      exact (Nat.add_assoc k 1 n).trans (congrArg _ (Nat.add_comm 1 n))

/-- A quotation mark that is meant. -/
theorem step_escaped (n : ℕ) : step ⟨res, .inDoubleQuote, 2 * n + 1, buf⟩ '"' next =
    ⟨res, .inDoubleQuote, 0, buf ++ List.replicate n '\\' ++ ['"']⟩ := by
  have hhalf : (2 * n + 1) / 2 = n := by omega
  have hodd : (2 * n + 1) % 2 = 1 := by omega
  simp [step, hhalf, hodd, Mode.begin]

/-- The quotation mark at the end. -/
theorem step_closing (n : ℕ) (hnext : next ≠ some '"') :
    step ⟨res, .inDoubleQuote, 2 * n, buf⟩ '"' next =
      ⟨res, .arg, 0, buf ++ List.replicate n '\\'⟩ := by
  have hhalf : 2 * n / 2 = n := by omega
  cases n with
  | zero => simp [step, switch, hnext]
  | succ n => simp [step, switch, hnext, hhalf]

theorem step_inside (hslash : c ≠ '\\') (hquote : c ≠ '"') :
    step ⟨res, .inDoubleQuote, k, buf⟩ c next =
      ⟨res, .inDoubleQuote, 0, buf ++ List.replicate k '\\' ++ [c]⟩ := by
  cases k <;> simp [step, switch, hslash, hquote, Mode.begin]

/-- A character of an argument that is not quoted. -/
theorem step_word (hmode : mode ≠ .inDoubleQuote) (hslash : c ≠ '\\') (hc : c ∉ special) :
    step ⟨res, mode, k, buf⟩ c next = ⟨res, .arg, 0, buf ++ List.replicate k '\\' ++ [c]⟩ := by
  simp only [special, List.mem_cons, List.not_mem_nil, or_false, not_or] at hc
  cases k <;> cases mode <;> simp_all [step, switch, Mode.begin]

/-- The space behind an argument. -/
theorem step_space (hmode : mode = .arg ∨ mode = .default ∧ k ≠ 0) :
    step ⟨res, mode, k, buf⟩ ' ' next = between (res ++ [buf ++ List.replicate k '\\']) := by
  cases k <;> rcases hmode with rfl | ⟨rfl, hk⟩ <;>
    simp_all [step, switch, between, Mode.begin]

/-- **What is between quotation marks is decoded.** -/
theorem run_body (ht : t.head? ≠ some '"') (n : ℕ) (s buf : Text) :
    run ⟨res, .inDoubleQuote, 0, buf⟩ (body n s ++ '"' :: t) =
      run ⟨res, .arg, 0, buf ++ decoded n s⟩ t := by
  induction s generalizing n buf with
  | nil => rw [body, decoded, run_backslashes, run, Nat.zero_add, step_closing n ht]
  | cons c cs ih =>
      rw [body, decoded]
      split_ifs with hslash hquote hend hend
      · exact ih (n + 1) buf
      · exact absurd (hquote ▸ hend.1) (by decide)
      · rw [List.append_assoc, run_backslashes, List.cons_append, run, Nat.zero_add, hquote,
          step_escaped, ih]
        simp
      · obtain ⟨rfl, rfl⟩ := hend
        rw [List.append_assoc, run_backslashes, List.singleton_append, run, Nat.zero_add,
          step_inside (by decide) (by decide), run, ← Nat.mul_zero 2, step_closing 0 ht]
        simp
      · rw [List.append_assoc, run_backslashes, List.cons_append, run, Nat.zero_add,
          step_inside hslash hquote, ih]
        simp

/-- A word that another argument follows is read as it is. -/
theorem run_word (hw : ∀ c ∈ w, c ∉ special)
    (hmode : mode = .arg ∨ mode = .default ∧ (k ≠ 0 ∨ w ≠ [])) :
    run ⟨res, mode, k, buf⟩ (w ++ ' ' :: t) =
      run (between (res ++ [buf ++ List.replicate k '\\' ++ w])) t := by
  induction w generalizing mode k buf with
  | nil =>
      rw [List.nil_append, run, step_space (by simpa using hmode), List.append_nil]
  | cons c cs ih =>
      have hcs : ∀ c ∈ cs, c ∉ special := fun d hd => hw d (by simp [hd])
      have hquote : mode ≠ .inDoubleQuote := by rcases hmode with rfl | ⟨rfl, -⟩ <;> decide
      rw [List.cons_append, run]
      by_cases hslash : c = '\\'
      · rw [step, if_pos hslash, ih hcs (hmode.imp_right fun h => ⟨h.1, .inl (by simp)⟩)]
        simp [List.replicate_succ', hslash]
      · rw [step_word hquote hslash (hw c (by simp)), ih hcs (.inl rfl)]
        simp

/-- So far as it does not end with backslashes, a word is read at once. -/
theorem run_word_of_last (hw : ∀ c ∈ w, c ∉ special) (hmode : mode ≠ .inDoubleQuote)
    (hne : w ≠ []) (hlast : w.getLast hne ≠ '\\') :
    run ⟨res, mode, k, buf⟩ (w ++ t) =
      run ⟨res, .arg, 0, buf ++ List.replicate k '\\' ++ w⟩ t := by
  induction w generalizing mode k buf with
  | nil => exact absurd rfl hne
  | cons c cs ih =>
      have hcs : ∀ c ∈ cs, c ∉ special := fun d hd => hw d (by simp [hd])
      rw [List.cons_append, run]
      by_cases hslash : c = '\\'
      · have hne' : cs ≠ [] := by
          rintro rfl
          exact hlast hslash
        rw [List.getLast_cons hne'] at hlast
        rw [step, if_pos hslash, ih hcs hmode hne' hlast]
        simp [List.replicate_succ', hslash]
      · rw [step_word hmode hslash (hw c (by simp))]
        rcases eq_or_ne cs [] with rfl | hne'
        · rw [List.nil_append]
        · rw [List.getLast_cons hne'] at hlast
          rw [ih hcs (by decide) hne' hlast]
          simp

end Splitter

/-! ### The arguments -/

/-- What an argument is read as that others follow. -/
def reread (arg : Text) : Text := if NeedsQuotes arg then decoded 0 arg else arg

/-- What is read of the last argument. -/
def rereadLast (arg : Text) : List Text :=
  if NeedsQuotes arg then [decoded 0 arg]
  else if arg.rdropWhile (· = '\\') = [] then [] else [arg.rdropWhile (· = '\\')]

theorem quoteArgWin32_of_needsQuotes (h : NeedsQuotes arg) :
    quoteArgWin32 arg = '"' :: (body 0 arg ++ ['"']) := by
  rw [quoteArgWin32, if_pos h, doubleAtEnd_escapeQuotes, List.cons_append]

theorem not_needsQuotes (h : ¬ NeedsQuotes arg) : arg ≠ [] ∧ ∀ c ∈ arg, c ∉ special := by
  simpa [NeedsQuotes] using h

namespace Splitter

theorem run_quoteArg (arg : Text) : run (between res) (quoteArgWin32 arg ++ ' ' :: t) =
    run (between (res ++ [reread arg])) t := by
  by_cases h : NeedsQuotes arg
  · have hopen : step (between res) '"' (body 0 arg ++ ['"'] ++ ' ' :: t).head? =
        ⟨res, .inDoubleQuote, 0, []⟩ := rfl
    rw [quoteArgWin32_of_needsQuotes h, List.cons_append, run, hopen, List.append_assoc,
      List.singleton_append, run_body (by simp), run, step_space (.inl rfl), reread, if_pos h]
    simp
  · obtain ⟨hne, hplain⟩ := not_needsQuotes h
    rw [quoteArgWin32, if_neg h, between, run_word hplain (.inr ⟨rfl, .inr hne⟩), reread, if_neg h]
    simp

/-- Backslashes at the end of the string are lost. -/
theorem finish_word (hw : ∀ c ∈ w, c ∉ special) : (run (between res) w).finish =
    res ++ if w.rdropWhile (· = '\\') = [] then [] else [w.rdropWhile (· = '\\')] := by
  have hslashes : ∃ n, w = w.rdropWhile (· = '\\') ++ List.replicate n '\\' := by
    refine ⟨(w.rtakeWhile (· = '\\')).length, ?_⟩
    have htake := List.eq_replicate_of_mem (l := w.rtakeWhile (· = '\\')) (a := '\\')
      fun c hc => by simpa using List.mem_rtakeWhile_imp hc
    rw [← htake, List.rdropWhile_append_rtakeWhile]
  obtain ⟨n, hn⟩ := hslashes
  have hend : ∀ mode buf, run ⟨res, mode, 0, buf⟩ (List.replicate n '\\') =
      ⟨res, mode, n, buf⟩ := fun mode buf => by
    have hrun : run ⟨res, mode, 0, buf⟩ (List.replicate n '\\' ++ []) =
        run ⟨res, mode, 0 + n, buf⟩ [] := run_backslashes n
    simpa [run] using hrun
  split_ifs with hnil
  · rw [hn, hnil, List.nil_append, between, hend]
    simp [finish]
  · have hprefix : ∀ c ∈ w.rdropWhile (· = '\\'), c ∉ special := fun c hc =>
      hw c ((List.rdropWhile_prefix _ _).subset hc)
    have hlast := List.rdropWhile_last_not _ _ hnil
    conv_lhs => rw [hn]
    rw [between, run_word_of_last hprefix (by decide) hnil (by simpa using hlast), hend]
    simp [finish]

theorem finish_quoteArg (arg : Text) :
    (run (between res) (quoteArgWin32 arg)).finish = res ++ rereadLast arg := by
  by_cases h : NeedsQuotes arg
  · have hopen : step (between res) '"' (body 0 arg ++ ['"']).head? =
        ⟨res, .inDoubleQuote, 0, []⟩ := rfl
    rw [quoteArgWin32_of_needsQuotes h, run, hopen, run_body (by simp), rereadLast, if_pos h]
    simp [run, finish]
  · rw [quoteArgWin32, if_neg h, finish_word (not_needsQuotes h).2, rereadLast, if_neg h]

/-- By induction on the arguments, all but the last of which are followed by a space. -/
theorem finish_join (res args : List Text) (last : Text) :
    (run (between res) (join ((args ++ [last]).map quoteArgWin32))).finish =
      res ++ args.map reread ++ rereadLast last := by
  induction args generalizing res with
  | nil => simpa [join] using finish_quoteArg last
  | cons arg args ih =>
      have hjoin : join ((arg :: args ++ [last]).map quoteArgWin32) =
          quoteArgWin32 arg ++ ' ' :: join ((args ++ [last]).map quoteArgWin32) := by
        cases args <;> simp [join, List.intercalate]
      rw [hjoin, run_quoteArg, ih]
      simp

end Splitter

theorem reread_iff (arg : Text) : reread arg = arg ↔ ¬ ['\\', '\n'] <:+ arg := by
  by_cases h : NeedsQuotes arg
  · rw [reread, if_pos h]
    exact decoded_iff (n := 0)
  · refine iff_of_true (if_neg h) fun hsuffix => ?_
    exact (not_needsQuotes h).2 '\n' (hsuffix.subset (by simp)) (by decide)

theorem rereadLast_iff (arg : Text) : rereadLast arg = [arg] ↔
    ¬ ['\\', '\n'] <:+ arg ∧ (NeedsQuotes arg ∨ ¬ ['\\'] <:+ arg) := by
  by_cases h : NeedsQuotes arg
  · rw [rereadLast, if_pos h, List.cons.injEq, and_iff_left rfl, and_iff_left (.inl h)]
    exact decoded_iff (n := 0)
  · have hnewline : ¬ ['\\', '\n'] <:+ arg := fun hsuffix =>
      (not_needsQuotes h).2 '\n' (hsuffix.subset (by simp)) (by decide)
    have hself : arg.rdropWhile (· = '\\') = arg ↔ ¬ ['\\'] <:+ arg := by
      rw [List.rdropWhile_eq_self_iff, List.singleton_suffix_iff_getLast?_eq_some,
        List.getLast?_eq_some_getLast (not_needsQuotes h).1]
      simp [(not_needsQuotes h).1]
    rw [rereadLast, if_neg h, and_iff_right hnewline, or_iff_right h, ← hself]
    split_ifs with hnil
    · simp [hnil, (not_needsQuotes h).1.symm]
    · simp

/-- **What is quoted and joined is split into the same arguments**, as long as no argument ends with
a backslash and a newline, and the last one, unless it is quoted, does not end with a backslash. -/
theorem strToArgsWindows_join (args : List Text) :
    strToArgsWindows (join (args.map quoteArgWin32)) = args ↔
      (∀ arg ∈ args, ¬ ['\\', '\n'] <:+ arg) ∧
        ∀ arg ∈ args.getLast?, NeedsQuotes arg ∨ ¬ ['\\'] <:+ arg := by
  induction args using List.reverseRecOn with
  | nil => exact iff_of_true rfl ⟨by simp, by simp⟩
  | append_singleton args last _ =>
      have hread : strToArgsWindows (join ((args ++ [last]).map quoteArgWin32)) =
          args.map reread ++ rereadLast last := by
        simpa [strToArgsWindows] using Splitter.finish_join [] args last
      have hsplit : args.map reread ++ rereadLast last = args ++ [last] ↔
          args.map reread = args ∧ rereadLast last = [last] :=
        ⟨fun h => List.append_inj h (by simp), fun h => by rw [h.1, h.2]⟩
      have hmap : args.map reread = args ↔ ∀ arg ∈ args, ¬ ['\\', '\n'] <:+ arg := by
        calc args.map reread = args
            _ ↔ args.map reread = args.map id := by rw [List.map_id]
            _ ↔ ∀ arg ∈ args, ¬ ['\\', '\n'] <:+ arg := by
              simp only [List.map_inj_left, id, reread_iff]
      rw [hread, hsplit, hmap, rereadLast_iff, List.getLast?_append]
      simp [or_imp, forall_and, and_assoc]

end WindowsArguments

end Ptvsd
