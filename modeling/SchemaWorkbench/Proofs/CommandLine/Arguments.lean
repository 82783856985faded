import SchemaWorkbench.CommandLine.Arguments
import SchemaWorkbench.Proofs.Interchange.Accepted

/-!
# Leaving an argument out

How an argument is read depends on the arguments before it only in one way: it may be the value of a
switch. `Level.reading` says how it is read, and a level is scanned by one reading after another.
What is written on a level is then the same, apart from one switch, if that switch and its value are
left out. So the commands that write a text can be asked for the same text without a file to write
it to.

## Main definitions

* `Level.reading`: how an argument is read
* `Written.Extra`: what is written on a level, with and without one switch
* `Writing`, `Writing.command`: the commands that write a text

## Main results

* `Level.scan_cons`: a level is scanned by one reading after another
* `Written.Extra.scan`: a switch changes nothing else of what follows it
* `Invocation.ofArguments_without_output`: the invocation without the switch for a file
-/

namespace SchemaWorkbench.CommandLine

/-! ## How an argument is read -/

/-- How an argument is read: as a command, as the sign that only operands follow, as something that
is recorded, or not at all. -/
inductive Reading where
  | command
  | operandsFollow
  | recorded (f : Written → Except Stop (Written × Option Switch))
  | unknown

/-- How an argument is read after the switch that still needs its value, if there is one. -/
def Level.reading (l : Level) (a : String) : Option Switch → Reading
  | none =>
    if l.commands.contains a then .command
    else
      match a.toList with
      | ['-', '-'] => .operandsFollow
      | '-' :: '-' :: text => .recorded (l.long · text)
      | '-' :: c :: text => .recorded (l.short · (c :: text))
      | _ => .recorded fun w => (w.addOperand l a).map (·, none)
  | some s =>
    match a.toList with
    | '-' :: _ :: _ => .unknown
    | _ => .recorded fun w => (w.set s a).map (·, none)

namespace Level

variable {l : Level} {w w' : Written} {pending : Option Switch} {a : String} {rest : List String}

/-- What is scanned from an argument on that is read in a given way. -/
def scanFrom (l : Level) (w : Written) (a : String) (rest : List String) :
    Reading → Except Stop Scanned
  | .command => .ok (w, some (a, rest))
  | .operandsFollow => do
    let w ← rest.foldlM (·.addOperand l ·) w
    .ok (w, none)
  | .recorded f => do
    let (w, pending) ← f w
    l.scan w pending rest
  | .unknown => .error .usage

/-- **A level is scanned by one reading after another.** -/
theorem scan_cons :
    l.scan w pending (a :: rest) = l.scanFrom w a rest (l.reading a pending) := by
  cases pending with
  | none =>
    unfold scan reading
    by_cases hcommand : l.commands.contains a
    · rw [if_pos ⟨rfl, hcommand⟩, if_pos hcommand]
      rfl
    · rw [if_neg fun h => hcommand h.2, if_neg hcommand]
      split
      case h_1 | h_2 | h_3 => simp only [*]; rfl
      case h_4 | h_5 => contradiction
      case h_6 =>
        simp only [*, scanFrom]
        cases w.addOperand l a <;> rfl
  | some s =>
    unfold scan reading
    rw [if_neg fun h => by cases h.1]
    split
    case h_1 | h_2 | h_3 | h_6 => contradiction
    case h_4 => simp only [*]; rfl
    case h_5 _ _ s' hs _ =>
      cases hs
      simp only [*, scanFrom]
      cases w.set s a <;> rfl

end Level

/-! ## One switch more -/

/-- The first record has one switch more than the second one, with a value. -/
structure Written.Extra (key value : String) (w w' : Written) : Prop where
  operands : w.operands = w'.operands
  extra : w.values.lookup key = some value
  missing : w'.values.lookup key = none
  others : ∀ other, other ≠ key → w.values.lookup other = w'.values.lookup other

theorem Written.set_eq_ok_iff {w w₁ : Written} {s : Switch} {text : String} :
    w.set s text = .ok w₁ ↔ (s.long ≠ "help" ∧ s.long ≠ "version") ∧
      w.values.lookup s.long = none ∧ s.accepts.all (· text) ∧
      w₁ = { w with values := w.values ++ [(s.long, text)] } := by
  rw [Written.set, ← Option.not_isSome_iff_eq_none]
  split_ifs with hhelp hversion htwice haccepts
  · simp [hhelp]
  · simp [hversion]
  · simp [htwice]
  · simp only [ne_eq, hhelp, hversion, htwice, haccepts, Except.ok.injEq, not_false_eq_true,
      and_self, true_and, Bool.false_eq_true]
    exact eq_comm
  · simp [haccepts]

/-- A switch that is recorded is not found under another name. -/
theorem lookup_concat_of_ne {values : List (String × String)} {key other value : String}
    (hne : other ≠ key) : (values ++ [(key, value)]).lookup other = values.lookup other := by
  have hnone : [(key, value)].lookup other = none := by simpa [List.lookup_eq_none_iff] using hne
  rw [List.lookup_append, hnone, Option.or_none]

namespace Written.Extra

variable {key value : String} {w w' w₁ : Written} {s : Switch} {text : String}

/-- A switch that is set is one more. -/
theorem of_set (hset : w.set s text = .ok w₁) : Extra s.long text w₁ w := by
  obtain ⟨-, hmissing, -, rfl⟩ := set_eq_ok_iff.mp hset
  refine ⟨rfl, ?_, hmissing, fun other hne => lookup_concat_of_ne hne⟩
  rw [List.lookup_append, hmissing, Option.none_or]
  exact List.lookup_cons_self

/-- No switch is set twice, and so what is set now is another switch. -/
theorem set (hw : Extra key value w w') (hset : w.set s text = .ok w₁) :
    ∃ w₁', w'.set s text = .ok w₁' ∧ Extra key value w₁ w₁' := by
  obtain ⟨hname, hmissing, haccepts, rfl⟩ := set_eq_ok_iff.mp hset
  have hother : s.long ≠ key := by
    -- The first record has this switch already.
    rintro rfl
    rw [hw.extra] at hmissing
    contradiction
  refine ⟨_, set_eq_ok_iff.mpr ⟨hname, (hw.others _ hother).symm.trans hmissing, haccepts, rfl⟩, ?_⟩
  refine ⟨hw.operands, ?_, ?_, fun other hne => ?_⟩
  · rw [List.lookup_append, hw.extra]
    rfl
  · exact (lookup_concat_of_ne hother.symm).trans hw.missing
  · rw [List.lookup_append, List.lookup_append, hw.others other hne]

theorem addOperand (hw : Extra key value w w') {l : Level} {operand : String}
    (hadd : w.addOperand l operand = .ok w₁) :
    ∃ w₁', w'.addOperand l operand = .ok w₁' ∧ Extra key value w₁ w₁' := by
  rw [Written.addOperand] at hadd ⊢
  rw [← hw.operands]
  split at hadd
  · cases hadd
    rename_i hroom
    rw [if_pos hroom]
    exact ⟨_, rfl, rfl, hw.extra, hw.missing, hw.others⟩
  · contradiction

theorem addOperands (hw : Extra key value w w') {l : Level} {operands : List String}
    (hadd : operands.foldlM (·.addOperand l ·) w = .ok w₁) :
    ∃ w₁', operands.foldlM (·.addOperand l ·) w' = .ok w₁' ∧ Extra key value w₁ w₁' := by
  induction operands generalizing w w' with
  | nil =>
    cases hadd
    exact ⟨_, rfl, hw⟩
  | cons operand operands ih =>
    rw [List.foldlM_cons] at hadd ⊢
    obtain ⟨w₂, hfirst, hrest⟩ := bind_eq_ok_iff.mp hadd
    obtain ⟨w₂', hfirst', hextra⟩ := hw.addOperand hfirst
    obtain ⟨w₁', hrest', hextra'⟩ := ih hextra hrest
    exact ⟨w₁', bind_eq_ok_iff.mpr ⟨w₂', hfirst', hrest'⟩, hextra'⟩

/-- What is recorded by itself is recorded alike in both. -/
theorem map {r r' : Except Stop Written}
    (hr : ∀ w₁, r = .ok w₁ → ∃ w₁', r' = .ok w₁' ∧ Extra key value w₁ w₁')
    {pending : Option Switch} (h : r.map (·, none) = .ok (w₁, pending)) :
    ∃ w₁', r'.map (·, none) = .ok (w₁', pending) ∧ Extra key value w₁ w₁' := by
  obtain ⟨_, hw₁, ⟨⟩⟩ := map_eq_ok_iff.mp h
  obtain ⟨w₁', hw₁', hextra⟩ := hr _ hw₁
  exact ⟨w₁', map_eq_ok_iff.mpr ⟨w₁', hw₁', rfl⟩, hextra⟩

theorem long (hw : Extra key value w w') {l : Level} {text : List Char}
    {pending : Option Switch} (h : l.long w text = .ok (w₁, pending)) :
    ∃ w₁', l.long w' text = .ok (w₁', pending) ∧ Extra key value w₁ w₁' := by
  unfold Level.long at h ⊢
  dsimp only at h ⊢
  split at h
  · contradiction
  · split at h
    · rename_i haccepts
      rw [if_pos haccepts]
      exact map (fun _ => hw.set) h
    · contradiction
  · split at h
    · rename_i haccepts
      cases h
      rw [if_pos haccepts]
      exact ⟨_, rfl, hw⟩
    · rename_i haccepts
      rw [if_neg haccepts]
      exact map (fun _ => hw.set) h

theorem short (hw : Extra key value w w') {l : Level} {text : List Char}
    {pending : Option Switch} (h : l.short w text = .ok (w₁, pending)) :
    ∃ w₁', l.short w' text = .ok (w₁', pending) ∧ Extra key value w₁ w₁' := by
  induction text generalizing w w' with
  | nil =>
    cases h
    exact ⟨_, rfl, hw⟩
  | cons c cs ih =>
    unfold Level.short at h ⊢
    split at h
    · contradiction
    · split at h
      · rename_i haccepts
        rw [if_pos haccepts]
        split at h
        · cases h
          exact ⟨_, rfl, hw⟩
        · exact map (fun _ => hw.set) h
        · exact map (fun _ => hw.set) h
      · rename_i haccepts
        rw [if_neg haccepts]
        obtain ⟨w₂, hset, hrest⟩ := bind_eq_ok_iff.mp h
        obtain ⟨w₂', hset', hextra⟩ := hw.set hset
        obtain ⟨w₁', hrest', hextra'⟩ := ih hextra hrest
        exact ⟨w₁', bind_eq_ok_iff.mpr ⟨w₂', hset', hrest'⟩, hextra'⟩

/-- What is recorded of an argument is recorded alike. -/
theorem recorded (hw : Extra key value w w') {l : Level} {a : String}
    {before pending : Option Switch} {f : Written → Except Stop (Written × Option Switch)}
    (hf : l.reading a before = .recorded f) (h : f w = .ok (w₁, pending)) :
    ∃ w₁', f w' = .ok (w₁', pending) ∧ Extra key value w₁ w₁' := by
  cases before with
  | none =>
    rw [Level.reading.eq_def] at hf
    dsimp only at hf
    split at hf
    · contradiction
    · split at hf
      · contradiction
      · cases hf
        exact hw.long h
      · cases hf
        exact hw.short h
      · cases hf
        exact map (fun _ => hw.addOperand) h
  | some s =>
    rw [Level.reading.eq_def] at hf
    dsimp only at hf
    split at hf
    · contradiction
    · cases hf
      exact map (fun _ => hw.set) h

/-- **A switch changes nothing else of what follows it**: the rest of the level is scanned alike. -/
theorem scan (hw : Extra key value w w') {l : Level} {before : Option Switch}
    {arguments : List String} {command : Option (String × List String)}
    (h : l.scan w before arguments = .ok (w₁, command)) :
    ∃ w₁', l.scan w' before arguments = .ok (w₁', command) ∧ Extra key value w₁ w₁' := by
  induction arguments generalizing w w' before with
  | nil =>
    cases before with
    | none =>
      cases h
      exact ⟨_, rfl, hw⟩
    | some s => contradiction
  | cons a rest ih =>
    rw [Level.scan_cons] at h ⊢
    cases hreading : l.reading a before with
    | command =>
      rw [hreading] at h
      cases h
      exact ⟨_, rfl, hw⟩
    | operandsFollow =>
      rw [hreading] at h
      obtain ⟨_, hfold, ⟨⟩⟩ := bind_eq_ok_iff.mp h
      obtain ⟨w₁', hfold', hextra⟩ := hw.addOperands hfold
      exact ⟨w₁', bind_eq_ok_iff.mpr ⟨w₁', hfold', rfl⟩, hextra⟩
    | recorded f =>
      rw [hreading] at h
      obtain ⟨⟨w₂, pending⟩, hf, hrest⟩ := bind_eq_ok_iff.mp h
      obtain ⟨w₂', hf', hextra⟩ := hw.recorded hreading hf
      obtain ⟨w₁', hrest', hextra'⟩ := ih hextra hrest
      exact ⟨w₁', bind_eq_ok_iff.mpr ⟨_, hf', hrest'⟩, hextra'⟩
    | unknown =>
      rw [hreading] at h
      contradiction

end Written.Extra

/-! ## The switch for a file -/

/-- The switch for a file, as it is written before its value. -/
def outputFlags : List String := ["-o", "--output"]

namespace Level

variable {l : Level} {w w₁ : Written} {pending : Option Switch} {flag path : String}
  {before after : List String} {command : Option (String × List String)}

theorem mem_commands_of_reading {a : String} (h : l.reading a pending = .command) :
    a ∈ l.commands := by
  unfold reading at h
  split at h
  · split at h
    · rename_i hcommand
      exact List.contains_iff_mem.mp hcommand
    · split at h <;> contradiction
  · split at h <;> contradiction

/-- No more operands are added than there is room for. -/
theorem length_le_of_addOperands {n : Nat} (hl : l.operands = some n) {operands : List String}
    (hadd : operands.foldlM (·.addOperand l ·) w = .ok w₁) :
    operands = [] ∨ w.operands.length + operands.length ≤ n := by
  induction operands generalizing w with
  | nil => exact .inl rfl
  | cons operand operands ih =>
    rw [List.foldlM_cons] at hadd
    obtain ⟨w₂, hfirst, hrest⟩ := bind_eq_ok_iff.mp hadd
    rw [Written.addOperand, hl] at hfirst
    split at hfirst
    · rename_i hroom
      simp only [Option.all_some, decide_eq_true_eq] at hroom
      cases hfirst
      refine .inr ?_
      rcases ih hrest with rfl | hlength
      · simpa [Nat.add_one_le_iff] using hroom
      · simp only [List.length_append, List.length_cons, List.length_nil] at hlength ⊢
        omega
    · contradiction

/-- A level on which a text can be written to a file: one operand, no commands, and the switch for
the file. -/
structure TakesOutput (l : Level) : Prop where
  commands : l.commands = []
  operands : l.operands = some 1
  scan_flag : ∀ flag ∈ outputFlags, ∀ w rest,
    l.scan w none (flag :: rest) = l.scan w (some outputSwitch) rest

/-- A switch is no value of another one. -/
theorem reading_flag (hflag : flag ∈ outputFlags) (l : Level) (s : Switch) :
    l.reading flag (some s) = .unknown := by
  simp only [outputFlags, List.mem_cons, List.not_mem_nil, or_false] at hflag
  rcases hflag with rfl | rfl <;> rfl

/-- On such a level the file is recorded, and nothing else. -/
theorem TakesOutput.scan_without (hl : l.TakesOutput) (hflag : flag ∈ outputFlags)
    (h : l.scan w pending (before ++ flag :: path :: after) = .ok (w₁, command)) :
    ∃ w₁', l.scan w pending (before ++ after) = .ok (w₁', command) ∧
      Written.Extra "output" path w₁ w₁' := by
  induction before generalizing w pending with
  | nil =>
    rw [List.nil_append] at h ⊢
    cases pending with
    | some s =>
      rw [scan_cons, reading_flag hflag] at h
      contradiction
    | none =>
      -- The value of the switch is recorded, and what follows is read as without it.
      rw [hl.scan_flag flag hflag, scan_cons, reading.eq_def] at h
      dsimp only at h
      split at h
      · contradiction
      · obtain ⟨_, hrecorded, hrest⟩ := bind_eq_ok_iff.mp h
        obtain ⟨w₂, hset, rfl⟩ := map_eq_ok_iff.mp hrecorded
        exact (Written.Extra.of_set hset).scan hrest
  | cons a before ih =>
    rw [List.cons_append, scan_cons] at h ⊢
    cases hreading : l.reading a pending with
    | command =>
      have hmem := mem_commands_of_reading hreading
      rw [hl.commands] at hmem
      contradiction
    | operandsFollow =>
      -- The switch and its value would be operands, and there is room for one only.
      rw [hreading] at h
      obtain ⟨w₂, hadd, -⟩ := bind_eq_ok_iff.mp h
      rcases length_le_of_addOperands hl.operands hadd with hnil | hlength
      · simp at hnil
      · simp only [List.length_append, List.length_cons] at hlength
        omega
    | recorded f =>
      rw [hreading] at h
      obtain ⟨⟨w₂, pending⟩, hf, hrest⟩ := bind_eq_ok_iff.mp h
      obtain ⟨w₁', hrest', hextra⟩ := ih hrest
      exact ⟨w₁', bind_eq_ok_iff.mpr ⟨_, hf, hrest'⟩, hextra⟩
    | unknown =>
      rw [hreading] at h
      contradiction

end Level

/-- Before a command there is no switch for a file, and so it stands after the command. -/
theorem topLevel_scan_without {w w₁ : Written} {pending : Option Switch} {flag path name : String}
    {before after rest : List String} (hflag : flag ∈ outputFlags)
    (h : topLevel.scan w pending (before ++ flag :: path :: after) = .ok (w₁, some (name, rest))) :
    ∃ before', rest = before' ++ flag :: path :: after ∧
      topLevel.scan w pending (before ++ after) = .ok (w₁, some (name, before' ++ after)) := by
  induction before generalizing w pending with
  | nil =>
    -- There is no such switch on this level, and it is no value either.
    cases pending with
    | some s =>
      rw [List.nil_append, Level.scan_cons, Level.reading_flag hflag] at h
      contradiction
    | none =>
      simp only [outputFlags, List.mem_cons, List.not_mem_nil, or_false] at hflag
      rcases hflag with rfl | rfl <;> contradiction
  | cons a before ih =>
    rw [List.cons_append, Level.scan_cons] at h ⊢
    cases hreading : topLevel.reading a pending with
    | command =>
      rw [hreading] at h
      cases h
      exact ⟨before, rfl, rfl⟩
    | operandsFollow =>
      rw [hreading] at h
      obtain ⟨_, -, ⟨⟩⟩ := bind_eq_ok_iff.mp h
    | recorded f =>
      rw [hreading] at h
      obtain ⟨⟨w₂, pending⟩, hf, hrest⟩ := bind_eq_ok_iff.mp h
      obtain ⟨before', hrest', hscan⟩ := ih hrest
      exact ⟨before', hrest', bind_eq_ok_iff.mpr ⟨_, hf, hscan⟩⟩
    | unknown =>
      rw [hreading] at h
      contradiction

/-! ## The commands that write a text -/

/-- A command that writes a text, apart from where it is written. -/
inductive Writing where
  | exportTo (input : String) (format : Export.Format) (dialect : Option Dialect)
  | generate (input : String) (dialect : Option Dialect)

/-- The command that writes the text to a file, or prints it. -/
def Writing.command : Writing → Option String → Command
  | exportTo input format dialect, output => .exportTo input format output dialect
  | generate input dialect, output => .generate input dialect output

namespace Command

variable {name : String} {written written' : Written} {writing : Writing} {output : Option String}

/-- The two commands that write a text, from what is written after their names. -/
theorem ofWritten_eq_ok_iff : ofWritten name written = .ok (writing.command output) ↔
    output = written.values.lookup "output" ∧ ∃ input, written.operands = [input] ∧
      (name = "export" ∧ writing = .exportTo input
          (((written.values.lookup "format").bind (exportFormats.lookup ·)).getD .json)
          ((written.values.lookup "dialect").bind (dialectNames.lookup ·)) ∨
        name = "generate" ∧ writing = .generate input
          ((written.values.lookup "dialect").bind (dialectNames.lookup ·))) := by
  constructor
  · intro h
    rw [ofWritten.eq_def] at h
    dsimp only at h
    split at h
    · cases writing <;> cases h
    · rename_i input hinput
      cases writing <;> cases h
      exact ⟨rfl, input, hinput, .inl ⟨rfl, rfl⟩⟩
    · rename_i input hinput
      cases writing <;> cases h
      exact ⟨rfl, input, hinput, .inr ⟨rfl, rfl⟩⟩
    all_goals cases writing <;> cases h
  · rintro ⟨rfl, input, hinput, ⟨rfl, rfl⟩ | ⟨rfl, rfl⟩⟩
    · simp only [ofWritten, hinput, Writing.command]
    · simp only [ofWritten, hinput, Writing.command]

/-- Without the switch for a file it is the same command, and the text is printed. -/
theorem ofWritten_without {path : String} (hextra : Written.Extra "output" path written written')
    (h : ofWritten name written = .ok (writing.command output)) :
    output = some path ∧ ofWritten name written' = .ok (writing.command none) := by
  rw [ofWritten_eq_ok_iff] at h ⊢
  rw [hextra.operands, hextra.extra, hextra.others "format" (by decide),
    hextra.others "dialect" (by decide)] at h
  exact ⟨h.1, hextra.missing.symm, h.2⟩

end Command

/-! ## Invocations -/

namespace Invocation

/-- The invocation of a command, from what is written before and after its name. -/
def ofLevels (before after : Written) (command : Command) : Invocation where
  apiUrl := after.values.lookup "api-url" <|> before.values.lookup "api-url"
  config := after.values.lookup "config" <|> before.values.lookup "config"
  verbose := (after.values.lookup "verbose" <|> before.values.lookup "verbose").isSome
  command := some command

/-- What may be missing is there if it counts as a success. -/
theorem elim_eq_ok_iff {ε α : Type} {o : Option α} {e : ε} {a : α} :
    o.elim (.error e) .ok = Except.ok a ↔ o = some a := by
  cases o <;> simp

/-- An invocation with a command is written on two levels. -/
theorem ofArguments_eq_ok_iff {arguments : List String} {inv : Invocation} {command : Command}
    (hcommand : inv.command = some command) : ofArguments arguments = .ok inv ↔
      ∃ before name rest level after next,
        topLevel.scan {} none arguments = .ok (before, some (name, rest)) ∧
          commandLevels.lookup name = some level ∧
          level.scan {} none rest = .ok (after, next) ∧
          Command.ofWritten name after = .ok command ∧ inv = ofLevels before after command := by
  rw [ofArguments, bind_eq_ok_iff]
  constructor
  · rintro ⟨⟨before, called⟩, hbefore, h⟩
    dsimp only at h
    split at h
    · cases h
      contradiction
    · contradiction
    · obtain ⟨level, hlevel, h⟩ := bind_eq_ok_iff.mp h
      obtain ⟨⟨after, next⟩, hafter, h⟩ := bind_eq_ok_iff.mp h
      obtain ⟨command', hwritten, h⟩ := bind_eq_ok_iff.mp h
      cases h
      cases hcommand
      exact ⟨before, _, _, level, after, next, hbefore, elim_eq_ok_iff.mp hlevel, hafter,
        hwritten, rfl⟩
  · rintro ⟨before, name, rest, level, after, next, hbefore, hlevel, hafter, hwritten, rfl⟩
    refine ⟨_, hbefore, ?_⟩
    dsimp only
    split
    · contradiction
    · rename_i hcalled
      cases hcalled
      contradiction
    · rename_i hcalled
      cases hcalled
      refine bind_eq_ok_iff.mpr ⟨level, elim_eq_ok_iff.mpr hlevel, ?_⟩
      refine bind_eq_ok_iff.mpr ⟨_, hafter, ?_⟩
      exact bind_eq_ok_iff.mpr ⟨command, hwritten, rfl⟩

/-- The commands that write a text take the switch for a file. -/
theorem takesOutput_of_lookup {name : String} {level : Level}
    (hname : name = "export" ∨ name = "generate") (h : commandLevels.lookup name = some level) :
    level.TakesOutput := by
  have hflags : ∀ flag ∈ outputFlags, flag = "-o" ∨ flag = "--output" := by simp [outputFlags]
  rcases hname with rfl | rfl
  · cases h
    refine ⟨rfl, rfl, fun flag hflag w rest => ?_⟩
    rcases hflags flag hflag with rfl | rfl <;> rfl
  · cases h
    refine ⟨rfl, rfl, fun flag hflag w rest => ?_⟩
    rcases hflags flag hflag with rfl | rfl <;> rfl

/-- **The invocation without the switch for a file.** If a command that writes a text is given a
file for it by a switch and its value, the arguments without these two ask for the same text to be
printed. -/
theorem ofArguments_without_output {before after : List String} {flag path : String}
    {inv : Invocation} {writing : Writing} {output : Option String} (hflag : flag ∈ outputFlags)
    (hcommand : inv.command = some (writing.command output))
    (h : ofArguments (before ++ flag :: path :: after) = .ok inv) :
    output = some path ∧
      ofArguments (before ++ after) = .ok { inv with command := some (writing.command none) } := by
  obtain ⟨top, name, rest, level, written, next, htop, hlevel, hscan, hwritten, rfl⟩ :=
    (ofArguments_eq_ok_iff hcommand).mp h
  obtain ⟨before', rfl, htop'⟩ := topLevel_scan_without hflag htop
  have hname : name = "export" ∨ name = "generate" := by
    obtain ⟨-, _, -, ⟨rfl, -⟩ | ⟨rfl, -⟩⟩ := Command.ofWritten_eq_ok_iff.mp hwritten
    · exact .inl rfl
    · exact .inr rfl
  obtain ⟨written', hscan', hextra⟩ :=
    (takesOutput_of_lookup hname hlevel).scan_without hflag hscan
  obtain ⟨rfl, hwritten'⟩ := Command.ofWritten_without hextra hwritten
  refine ⟨rfl, (ofArguments_eq_ok_iff rfl).mpr ?_⟩
  refine ⟨top, name, _, level, written', next, htop', hlevel, hscan', hwritten', ?_⟩
  simp only [ofLevels, hextra.others "api-url" (by decide), hextra.others "config" (by decide),
    hextra.others "verbose" (by decide)]

end Invocation

end SchemaWorkbench.CommandLine
