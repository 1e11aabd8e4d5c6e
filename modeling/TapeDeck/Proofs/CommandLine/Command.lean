import TapeDeck.CommandLine.Command
import TapeDeck.Proofs.CommandLine.Trace

/-!
# What the options of a run can change

The command reads its options, opens its log, chooses a program and runs it. Whether the run is
traced, animated or its tape dumped is seen on standard output alone: log, files and error are the
same.

The proof compares two scripts. They agree (`Script.Agree`) if, carried out from consoles with the
same files and the same standard error, they leave such consoles and end with the same error. Each
kind of script has a rule for that; the scripts of two sets of options are alike up to the run, and
for the run itself the rule is that its performances agree in all but what they print
(`Headless.run_agree`).

What a script does from the run on is computed by `Options.eval_play`: the pieces are printed, the
verdict is logged, and the tones are written down if they are wanted.

**`watching_changes_nothing`** says for a program, a tape size, an encoding and a cancellation what
all settings of the four options print, record and return. The trace is said twice: as the lines of
the executed steps, and as what a reader gets back from them (`readTrace?_append`).
-/

namespace TapeDeck

/-! ## What parts of a script do -/

/-- The console after texts have been printed. -/
def Console.printAll (c : Console) (pieces : List String) : Console :=
  { c with stdout := c.stdout ++ pieces.map Bytes.ofString }

/-- The console after an entry has been logged, if it is one that is kept. -/
def Logger.write (l : Logger) (c : Console) (e : Log.Entry) : Console :=
  if l.verbose || e.isPlain then
    match l.target with
    | .stderr => { c with stderr := c.stderr ++ e.line }
    | .file path => { c with disk := c.disk.append path e.line }
    | .nowhere => c
  else c

/-- The console after entries have been logged. -/
def Logger.writeAll (l : Logger) (c : Console) (entries : List Log.Entry) : Console :=
  entries.foldl l.write c

/-- The console and the error after the tones have been written down, if they are wanted. -/
def Options.finished (o : Options) (l : Logger) (failure : Option RunFailure) (track : Track)
    (c : Console) : Console × Option CommandError :=
  if o.recording then
    match c.save o.wav track.calls with
    | (c, some e) => (c, some (.after (failure.map .run) e))
    | (c, none) => (l.writeAll c [Log.wavWritten o.wav track.size], failure.map .run)
  else (c, failure.map .run)

section Eval

variable (rounds : Nat) (c : Console)

theorem Script.eval_prints (pieces : List String) (next : Script) :
    (pieces.foldr (fun s next => Script.print (Bytes.ofString s) next) next).eval rounds c =
      next.eval rounds (c.printAll pieces) := by
  induction pieces generalizing c with
  | nil => simp [Console.printAll]
  | cons s pieces ih =>
    rw [List.foldr_cons, Script.eval, ih]
    simp [Console.printAll]

theorem Logger.eval_log (l : Logger) (entries : List Log.Entry) (next : Script) :
    (l.log entries next).eval rounds c = next.eval rounds (l.writeAll c entries) := by
  induction entries generalizing c with
  | nil => rfl
  | cons e entries ih =>
    have hcons : l.writeAll c (e :: entries) = l.writeAll (l.write c e) entries := rfl
    have hlog : l.log (e :: entries) next =
        if l.verbose || e.isPlain then
          match l.target with
          | .stderr => .warn e.line (l.log entries next)
          | .file path => .appendLog path e.line (l.log entries next)
          | .nowhere => l.log entries next
        else l.log entries next := rfl
    rw [hlog, hcons, ← ih]
    unfold Logger.write
    split_ifs
    · cases l.target <;> rfl
    · rfl

theorem Options.eval_finish (o : Options) (l : Logger) (failure : Option RunFailure)
    (track : Track) :
    (o.finish l failure track).eval rounds c = some (o.finished l failure track c) := by
  unfold Options.finish Options.finished
  split_ifs with hrec
  · rw [Script.eval]
    cases c.save o.wav track.calls with
    | mk c' error =>
      cases error with
      | some e => rfl
      | none => exact l.eval_log rounds c' _ _
  · rfl

/-- **A run, carried out**: its pieces are printed, its verdict is logged, and the tones are written
down if they are wanted. -/
theorem Options.eval_play (o : Options) (l : Logger) (h : Headless) :
    (o.play l h).eval rounds c =
      (h.run rounds).map fun p =>
        o.finished l p.failure p.track (l.writeAll (c.printAll p.printed) p.log) := by
  unfold Options.play
  rw [Script.eval]
  cases h.run rounds with
  | none => rfl
  | some p =>
    rw [Option.map_some, ← o.eval_finish rounds, ← l.eval_log, ← Script.eval_prints]

end Eval

/-! ## Standard output -/

theorem Logger.stdout_writeAll (l : Logger) (c : Console) (entries : List Log.Entry) :
    (l.writeAll c entries).stdout = c.stdout := by
  induction entries generalizing c with
  | nil => rfl
  | cons e entries ih =>
    have hwrite : (l.write c e).stdout = c.stdout := by
      unfold Logger.write
      split_ifs
      · cases l.target <;> rfl
      · rfl
    exact (ih (l.write c e)).trans hwrite

theorem Console.stdout_save (c : Console) (path : Bytes) (calls : List WavCall) :
    (c.save path calls).1.stdout = c.stdout := by
  unfold Console.save
  split <;> rfl

theorem Options.stdout_finished (o : Options) (l : Logger) (failure : Option RunFailure)
    (track : Track) (c : Console) : (o.finished l failure track c).1.stdout = c.stdout := by
  have hsave := c.stdout_save o.wav track.calls
  unfold Options.finished
  split_ifs
  · split
    · next hs => rw [hs] at hsave; exact hsave
    · next hs => rw [hs] at hsave; exact (l.stdout_writeAll _ _).trans hsave
  · rfl

/-! ## Consoles that differ in what was printed -/

/-- The same files and the same standard error. -/
structure Console.SameFiles (c c' : Console) : Prop where
  disk_eq : c.disk = c'.disk
  stderr_eq : c.stderr = c'.stderr

namespace Console.SameFiles

variable {c c' : Console}

theorem openLog (h : c.SameFiles c') (path : Bytes) :
    (c.openLog path).1.SameFiles (c'.openLog path).1 ∧
      (c.openLog path).2 = (c'.openLog path).2 := by
  unfold Console.openLog
  rw [h.disk_eq]
  split
  · exact ⟨h, rfl⟩
  · exact ⟨⟨rfl, h.stderr_eq⟩, rfl⟩

theorem save (h : c.SameFiles c') (path : Bytes) (calls : List WavCall) :
    (c.save path calls).1.SameFiles (c'.save path calls).1 ∧
      (c.save path calls).2 = (c'.save path calls).2 := by
  unfold Console.save
  rw [h.disk_eq]
  split
  · exact ⟨h, rfl⟩
  · exact ⟨⟨rfl, h.stderr_eq⟩, rfl⟩

theorem write (h : c.SameFiles c') (l : Logger) (e : Log.Entry) :
    (l.write c e).SameFiles (l.write c' e) := by
  unfold Logger.write
  split_ifs
  · cases l.target with
    | stderr => exact ⟨h.disk_eq, congrArg (· ++ e.line) h.stderr_eq⟩
    | file path => exact ⟨congrArg (·.append path e.line) h.disk_eq, h.stderr_eq⟩
    | nowhere => exact h
  · exact h

theorem writeAll (h : c.SameFiles c') (l : Logger) (entries : List Log.Entry) :
    (l.writeAll c entries).SameFiles (l.writeAll c' entries) := by
  induction entries generalizing c c' with
  | nil => exact h
  | cons e entries ih => exact ih (h.write l e)

theorem finished (h : c.SameFiles c') (o : Options) (l : Logger) (failure : Option RunFailure)
    (track : Track) :
    (o.finished l failure track c).1.SameFiles (o.finished l failure track c').1 ∧
      (o.finished l failure track c).2 = (o.finished l failure track c').2 := by
  obtain ⟨hfiles, herror⟩ := h.save o.wav track.calls
  unfold Options.finished
  split_ifs
  · cases hs : c.save o.wav track.calls with
    | mk k error =>
      cases hs' : c'.save o.wav track.calls with
      | mk k' error' =>
        rw [hs, hs'] at hfiles herror
        obtain rfl : error = error' := herror
        cases error with
        | some e => exact ⟨hfiles, rfl⟩
        | none => exact ⟨hfiles.writeAll l _, rfl⟩
  · exact ⟨h, rfl⟩

end Console.SameFiles

/-! ## Scripts that agree in all but what they print -/

/-- Carried out from consoles with the same files, with rounds that are enough for each, the two
scripts leave consoles with the same files, and end with the same error. -/
def Script.Agree (s s' : Script) : Prop :=
  ∀ ⦃rounds rounds' : Nat⦄ ⦃c c' k k' : Console⦄ ⦃e e' : Option CommandError⦄, c.SameFiles c' →
    s.eval rounds c = some (k, e) → s'.eval rounds' c' = some (k', e') → k.SameFiles k' ∧ e = e'

namespace Script.Agree

theorem done (error : Option CommandError) : Agree (.done error) (.done error) := by
  intro rounds rounds' c c' k k' e e' hc hs hs'
  cases hs
  cases hs'
  exact ⟨hc, rfl⟩

theorem print {s s' : Script} (h : Agree s s') (bytes bytes' : Bytes) :
    Agree (.print bytes s) (.print bytes' s') := by
  intro rounds rounds' c c' k k' e e' hc hs hs'
  have hprinted : Console.SameFiles { c with stdout := c.stdout.push bytes }
      { c' with stdout := c'.stdout.push bytes' } := ⟨hc.disk_eq, hc.stderr_eq⟩
  rw [Script.eval] at hs hs'
  exact h hprinted hs hs'

theorem readFile {next next' : Except FileError Bytes → Script}
    (h : ∀ r, Agree (next r) (next' r)) (path : Bytes) :
    Agree (.readFile path next) (.readFile path next') := by
  intro rounds rounds' c c' k k' e e' hc hs hs'
  rw [Script.eval] at hs hs'
  rw [hc.disk_eq] at hs
  exact h _ hc hs hs'

theorem openLog {next next' : Option FileError → Script} (h : ∀ r, Agree (next r) (next' r))
    (path : Bytes) : Agree (.openLog path next) (.openLog path next') := by
  intro rounds rounds' c c' k k' e e' hc hs hs'
  rw [Script.eval] at hs hs'
  obtain ⟨hfiles, herror⟩ := hc.openLog path
  dsimp only at hs hs'
  rw [herror] at hs
  exact h _ hfiles hs hs'

theorem watch {next next' : Screen → List Log.Entry → Script} (s : Screen)
    (h : Agree (next s []) (next' s [])) : Agree (.watch s next) (.watch s next') := by
  intro rounds rounds' c c' k k' e e' hc hs hs'
  rw [Script.eval] at hs hs'
  exact h hc hs hs'

theorem log {s s' : Script} (h : Agree s s') (l : Logger) (entries : List Log.Entry) :
    Agree (l.log entries s) (l.log entries s') := by
  intro rounds rounds' c c' k k' e e' hc hs hs'
  rw [l.eval_log] at hs hs'
  exact h (hc.writeAll l entries) hs hs'

variable (o : Options) (l : Logger)

theorem finish (failure : Option RunFailure) (track : Track) :
    Agree (o.finish l failure track) (o.finish l failure track) := by
  intro rounds rounds' c c' k k' e e' hc hs hs'
  rw [o.eval_finish] at hs hs'
  have hk := hc.finished o l failure track
  rw [Option.some.inj hs, Option.some.inj hs'] at hk
  exact hk

/-- Runs agree if what they leave behind agrees in all but what was printed. -/
theorem play {h h' : Headless}
    (hrun : ∀ ⦃rounds rounds' : Nat⦄ ⦃p p' : Performance⦄, h.run rounds = some p →
      h'.run rounds' = some p' → p'.log = p.log ∧ p'.failure = p.failure ∧ p'.track = p.track) :
    Agree (o.play l h) (o.play l h') := by
  intro rounds rounds' c c' k k' e e' hc hs hs'
  rw [o.eval_play] at hs hs'
  obtain ⟨p, hp, hk⟩ := Option.map_eq_some_iff.mp hs
  obtain ⟨p', hp', hk'⟩ := Option.map_eq_some_iff.mp hs'
  obtain ⟨hlog, hfailure, htrack⟩ := hrun hp hp'
  have hprinted : (c.printAll p.printed).SameFiles (c'.printAll p'.printed) :=
    ⟨hc.disk_eq, hc.stderr_eq⟩
  have hend := (hprinted.writeAll l p.log).finished o l p.failure p.track
  rw [hlog, hfailure, htrack] at hk'
  rw [hk, hk'] at hend
  exact hend

theorem present (s : Settings) : Agree (o.present l s) (o.present l s) := by
  unfold Options.present
  cases Screen.open? s with
  | error e => exact finish o l _ _
  | ok r => exact (watch _ ((finish o l _ _).log l [])).log l _

variable {o} {o' : Options}

theorem withLogger {next next' : Logger → Script} (hlog : o'.log = o.log) (htui : o'.tui = o.tui)
    (hverbose : o'.verbose = o.verbose) (h : ∀ l, Agree (next l) (next' l)) :
    Agree (o.withLogger next) (o'.withLogger next') := by
  unfold Options.withLogger
  rw [hlog, htui, hverbose]
  split_ifs
  · refine openLog (fun r => ?_) o.log
    cases r with
    | some e => exact done _
    | none => exact h _
  · exact h _
  · exact h _

theorem fromCatalog {next next' : Program → Script} (hid : o'.id = o.id)
    (h : ∀ p, Agree (next p) (next' p)) (catalog : Catalog) :
    Agree (o.fromCatalog catalog next) (o'.fromCatalog catalog next') := by
  unfold Options.fromCatalog
  rw [hid]
  cases catalog.lookup o.id with
  | ok p => exact h p
  | error e => exact done _

theorem withProgram {next next' : Program → Script} (hid : o'.id = o.id)
    (hfile : o'.file = o.file) (hcatalog : o'.catalog = o.catalog)
    (h : ∀ p, Agree (next p) (next' p)) :
    Agree (o.withProgram next) (o'.withProgram next') := by
  unfold Options.withProgram
  rw [hfile, hcatalog]
  split_ifs
  · refine readFile (fun r => ?_) o.file
    cases r with
    | ok source => exact h _
    | error e => exact done _
  · refine readFile (fun r => ?_) o.catalog
    cases Options.catalogOf r with
    | ok catalog => exact fromCatalog hid h catalog
    | error e => exact done _
  · exact fromCatalog hid h _

end Script.Agree

/-! ## The command -/

/-- What is to be shown and kept of a run. -/
structure Watching where
  trace : Bool
  dump : Bool
  animate : Bool
  wav : Bytes

namespace Options

variable (o : Options) (cancelled : Bool) (encoding : Encoding) (p : Program)

/-- The options, with these settings for what is shown and kept of a run. -/
def watching (w : Watching) : Options :=
  { o with trace := w.trace, dump := w.dump, animate := w.animate, wav := w.wav }

/-- The run without a screen that the options ask for with these settings. -/
def watchedRun (w : Watching) : Headless :=
  (o.watching w).headless { before := cancelled } encoding p

/-- **Tracing, dumping and animating are seen on standard output alone.** -/
theorem script_agree (trace dump animate : Bool) :
    (o.script { before := cancelled }).Agree
      ((o.watching ⟨trace, dump, animate, o.wav⟩).script { before := cancelled }) := by
  have hplay (l : Logger) (encoding : Encoding) (p : Program) :
      (o.play l (o.headless { before := cancelled } encoding p)).Agree
        (o.play l (o.watchedRun cancelled encoding p ⟨trace, dump, animate, o.wav⟩)) := by
    refine Script.Agree.play o l fun rounds rounds' perf perf' hp hp' => ?_
    obtain ⟨hlog, hfailure, htrack⟩ :=
      Headless.run_agree (o.headless { before := cancelled } encoding p)
        (o.watchedRun cancelled encoding p ⟨trace, dump, animate, o.wav⟩)
        rfl rfl rfl rfl rfl hp hp'
    exact ⟨hlog, hfailure, htrack rfl⟩
  have hencoding : (o.watching ⟨trace, dump, animate, o.wav⟩).encoding = o.encoding := rfl
  have hlist : (o.watching ⟨trace, dump, animate, o.wav⟩).list = o.list := rfl
  have htui : (o.watching ⟨trace, dump, animate, o.wav⟩).tui = o.tui := rfl
  unfold script
  refine Script.Agree.withLogger rfl rfl rfl fun l => ?_
  rw [hencoding]
  cases Encoding.ofName? o.encoding with
  | error e => exact .done _
  | ok encoding =>
    refine Script.Agree.withProgram rfl rfl rfl fun p => Script.Agree.log ?_ l _
    rw [hlist, htui]
    split_ifs
    · exact (Script.Agree.done none).print _ _
    · exact .present o l _
    · exact hplay l encoding p

/-- The error of a run is that of the command, unless the tones could not be written. -/
theorem error_finished (l : Logger) (failure : Option RunFailure) (track : Track) (c : Console)
    (h : o.wav = [] ∨ (c.save o.wav track.calls).2 = none) :
    (o.finished l failure track c).2 = failure.map .run := by
  unfold finished
  split_ifs with hrec
  · have hsaved := h.resolve_left (of_decide_eq_true hrec)
    cases hs : c.save o.wav track.calls with
    | mk k error =>
      rw [hs] at hsaved
      obtain rfl : error = none := hsaved
      rfl
  · rfl

end Options

/-- **What is watched of a run changes nothing about it.** A program either ends under all settings,
after one and the same number of steps, or under none. What is printed is the trace of the executed
steps, the decoded output and the tape, the first and the last only if they are wanted. As many
lines as there were executed steps read back as the position, byte, pointer and cells of these steps
in their order, and the output and the tape are what is left. The error is the same for all
settings, and the track has the tone of every executed step. -/
theorem watching_changes_nothing (o : Options) (cancelled : Bool) (encoding : Encoding)
    (p : Program) :
    -- a tape size that is refused: nothing is printed or recorded
    (o.tapeSize ≤ 0 → ∀ w rounds, (o.watchedRun cancelled encoding p w).run rounds =
      some { printed := [], track := .empty, log := [],
             failure := some (.tapeSize ⟨o.tapeSize⟩) }) ∧
    -- else there is one number of steps for all settings, or no setting brings a run to its end
    (0 < o.tapeSize → ∃ m, Machine.load? p.source o.tapeSize = .ok m ∧
      ((∀ w rounds, (o.watchedRun cancelled encoding p w).run rounds = none) ∨
        ∃ n, FirstFrom (RunOver cancelled m) 0 n ∧
          ((m.stepN n).halt? = some .unbalanced →
            ((m.reports n).filterMap StepReport.command).getLast? =
              (m.stepN n).code[(m.stepN n).index]?) ∧
          ∀ w, (∃ rounds, ((o.watchedRun cancelled encoding p w).run rounds).isSome) ∧
            ∀ rounds perf, (o.watchedRun cancelled encoding p w).run rounds = some perf →
              (∃ out, (o.watchedRun cancelled encoding p w).drive rounds m = some out ∧
                out.machine.Alike (m.stepN n)) ∧
              String.join perf.printed =
                (if w.trace then String.join ((m.reports n).filterMap StepReport.traceLine?)
                  else "") ++
                encoding.decode (m.stepN n).output.toList ++
                (if w.dump then "\n" ++ (m.stepN n).tape.dump else "") ∧
              (w.trace = true →
                readTrace? ((m.reports n).filterMap StepReport.traceRow?).length
                    (String.join perf.printed).toList =
                  some ((m.reports n).filterMap StepReport.traceRow?,
                    (encoding.decode (m.stepN n).output.toList ++
                      (if w.dump then "\n" ++ (m.stepN n).tape.dump else "")).toList)) ∧
              perf.failure = (m.runError cancelled n).map .run ∧
              (w.wav ≠ [] → perf.track =
                Track.empty.cueAll ((m.reports n).filterMap StepReport.command)))) ∧
    -- on the console: what was printed, and the error, unless the tones could not be written
    (∀ (w : Watching) (l : Logger) rounds c k e,
      ((o.watching w).play l (o.watchedRun cancelled encoding p w)).eval rounds c = some (k, e) →
      ∃ perf, (o.watchedRun cancelled encoding p w).run rounds = some perf ∧
        k.stdout = c.stdout ++ perf.printed.map Bytes.ofString ∧
        (w.wav = [] ∨ ((l.writeAll (c.printAll perf.printed) perf.log).save w.wav
            perf.track.calls).2 = none →
          e = perf.failure.map .run)) ∧
    -- the whole command: files and error do not depend on trace, dump and timer
    ∀ trace dump animate rounds rounds' c k k' e e',
      (o.script { before := cancelled }).eval rounds c = some (k, e) →
      ((o.watching ⟨trace, dump, animate, o.wav⟩).script { before := cancelled }).eval rounds' c =
        some (k', e') →
      k.disk = k'.disk ∧ k.stderr = k'.stderr ∧ e = e' := by
  refine ⟨?_, ?_, ?_, ?_⟩
  · intro hsize w rounds
    exact Headless.run_of_refused hsize rounds
  · intro hsize
    obtain ⟨m, hm⟩ := Machine.load?_eq_ok_of_pos p.source hsize
    refine ⟨m, hm, ?_⟩
    have hreturns (w : Watching) (perf : Performance) :=
      Headless.run_returns_iff (h := o.watchedRun cancelled encoding p w) rfl hm perf
    by_cases hover : ∃ n, RunOver cancelled m n
    · obtain ⟨n, hn⟩ := exists_firstFrom hover
      refine .inr ⟨n, hn, Machine.getLast?_commands_of_unbalanced (Machine.isHalted_of_load? hm) hn,
        fun w => ⟨?_, ?_⟩⟩
      · obtain ⟨rounds, hperf⟩ := (hreturns w _).mpr ⟨n, hn, rfl⟩
        exact ⟨rounds, congrArg Option.isSome hperf⟩
      · intro rounds perf hperf
        have hdrive := Headless.drive_of_run rfl hm hn hperf
        obtain ⟨n', hn', rfl⟩ := (hreturns w perf).mp ⟨rounds, hperf⟩
        obtain rfl : n = n' := hn.unique hn'
        have hprinted := (o.watchedRun cancelled encoding p w).join_printed m n
        refine ⟨hdrive, hprinted, fun htrace => ?_, rfl, fun hwav => ?_⟩
        · have hwanted : (o.watchedRun cancelled encoding p w).trace = true := htrace
          rw [hprinted, if_pos hwanted, String.append_assoc, String.toList_append,
            readTrace?_append]
          rfl
        · exact if_pos (decide_eq_true hwav)
    · refine .inl fun w rounds => Option.eq_none_iff_forall_ne_some.mpr fun perf hperf => ?_
      obtain ⟨n, hn, -⟩ := (hreturns w perf).mp ⟨rounds, hperf⟩
      exact hover ⟨n, hn.1.2⟩
  · intro w l rounds c k e heval
    rw [Options.eval_play] at heval
    obtain ⟨perf, hperf, hend⟩ := Option.map_eq_some_iff.mp heval
    refine ⟨perf, hperf, ?_, ?_⟩
    · have hout := (o.watching w).stdout_finished l perf.failure perf.track
        (l.writeAll (c.printAll perf.printed) perf.log)
      rw [hend, l.stdout_writeAll] at hout
      exact hout
    · intro hsaved
      have herror := (o.watching w).error_finished l perf.failure perf.track _ hsaved
      rw [hend] at herror
      exact herror
  · intro trace dump animate rounds rounds' c k k' e e' hs hs'
    obtain ⟨hfiles, herror⟩ := o.script_agree cancelled trace dump animate ⟨rfl, rfl⟩ hs hs'
    exact ⟨hfiles.disk_eq, hfiles.stderr_eq, herror⟩

/-- A bracket without a partner is found at the third step, whatever is watched. It has its line and
its tone, and the command ends with it also if the run is traced and animated and its tape
dumped. -/
theorem watching_changes_nothing_unbalanced :
    let o : Options := { file := [0x70], tapeSize := 1 }
    let source : Bytes := [0x2B, 0x2E, 0x5D]
    let failure : RunFailure := .run (.unbalanced (.noOpen 2))
    (∀ w, ∃ rounds perf,
      (o.watchedRun false .utf8 { source := source } w).run rounds = some perf ∧
        String.join perf.printed =
          (if w.trace then
            "    0 + ptr=0 cells=[1]\n    1 . ptr=0 cells=[1]\n    2 ] ptr=0 cells=[1]\n"
            else "") ++ "\x01" ++ (if w.dump then "\n*0: 1\n" else "") ∧
        (w.trace = true → readTrace? 3 (String.join perf.printed).toList =
          some ([⟨0, 0x2B, 0, [1]⟩, ⟨1, 0x2E, 0, [1]⟩, ⟨2, 0x5D, 0, [1]⟩],
            ("\x01" ++ (if w.dump then "\n*0: 1\n" else "")).toList)) ∧
        perf.failure = some failure ∧
        (w.wav ≠ [] → perf.track = Track.empty.cueAll source)) ∧
    ∃ k, ((o.watching ⟨true, true, true, []⟩).script {}).eval 4
      { disk := ⟨[([0x70], source)]⟩ } = some (k, some (.run failure)) ∧
      k.stdout = #["    0 + ptr=0 cells=[1]\n", "    1 . ptr=0 cells=[1]\n",
        "    2 ] ptr=0 cells=[1]\n", "\x01", "\n", "*0: 1\n"].map Bytes.ofString := by
  intro o source failure
  obtain ⟨-, hsteps, -, hscript⟩ := watching_changes_nothing o false .utf8 { source := source }
  constructor
  · obtain ⟨m, hm, hends⟩ := hsteps (by decide)
    obtain rfl : Machine.start source (Tape.blank 0) = m := Except.ok.inj hm
    have hreturns : ((o.watchedRun false .utf8 { source := source }
        ⟨false, false, false, []⟩).run 3).isSome := by
      decide +kernel
    have hlive : ∀ k < 3, ((Machine.start source (Tape.blank 0)).stepN k).isHalted = false := by
      decide +kernel
    have hhalt : ((Machine.start source (Tape.blank 0)).stepN 3).isHalted = true := by
      decide +kernel
    have herror : (Machine.start source (Tape.blank 0)).runError false 3 =
        some (.unbalanced (.noOpen 2)) := by
      decide +kernel
    have hcommands : ((Machine.start source (Tape.blank 0)).reports 3).filterMap
        StepReport.command = source := by
      decide +kernel
    have hlines : String.join (((Machine.start source (Tape.blank 0)).reports 3).filterMap
        StepReport.traceLine?) =
          "    0 + ptr=0 cells=[1]\n    1 . ptr=0 cells=[1]\n    2 ] ptr=0 cells=[1]\n" := by
      decide +kernel
    have hrows : ((Machine.start source (Tape.blank 0)).reports 3).filterMap
        StepReport.traceRow? =
          [⟨0, 0x2B, 0, [1]⟩, ⟨1, 0x2E, 0, [1]⟩, ⟨2, 0x5D, 0, [1]⟩] := by
      decide +kernel
    have houtput : Encoding.utf8.decode
        ((Machine.start source (Tape.blank 0)).stepN 3).output.toList = "\x01" := by
      decide +kernel
    have hdump : "\n" ++ ((Machine.start source (Tape.blank 0)).stepN 3).tape.dump =
        "\n*0: 1\n" := by
      decide +kernel
    obtain hnone | ⟨n, hn, -, hall⟩ := hends
    · rw [hnone] at hreturns
      exact absurd hreturns nofun
    · have hfirst : FirstFrom (RunOver false (Machine.start source (Tape.blank 0))) 0 3 := by
        refine ⟨⟨Nat.zero_le 3, .inl hhalt⟩, fun k hk => Nat.le_of_not_lt fun hlt => ?_⟩
        obtain ⟨-, hover | ⟨-, hfalse⟩⟩ := hk
        · exact absurd ((hlive k hlt).symm.trans hover) Bool.false_ne_true
        · exact absurd hfalse Bool.false_ne_true
      obtain rfl : n = 3 := hn.unique hfirst
      intro w
      obtain ⟨⟨rounds, hsome⟩, hruns⟩ := hall w
      obtain ⟨perf, hperf⟩ := Option.isSome_iff_exists.mp hsome
      obtain ⟨-, hprinted, htrace, hfailure, htrack⟩ := hruns rounds perf hperf
      rw [hlines, houtput, hdump] at hprinted
      rw [hrows, houtput, hdump] at htrace
      rw [herror] at hfailure
      rw [hcommands] at htrack
      exact ⟨rounds, perf, hperf, hprinted, htrace, hfailure, htrack⟩
  · have herror : ((o.script {}).eval 4 { disk := ⟨[([0x70], source)]⟩ }).map Prod.snd =
        some (some (.run failure)) := by
      decide +kernel
    have hstdout : (((o.watching ⟨true, true, true, []⟩).script {}).eval 4
        { disk := ⟨[([0x70], source)]⟩ }).map (fun p => p.1.stdout) =
          some (#["    0 + ptr=0 cells=[1]\n", "    1 . ptr=0 cells=[1]\n",
            "    2 ] ptr=0 cells=[1]\n", "\x01", "\n", "*0: 1\n"].map Bytes.ofString) := by
      decide +kernel
    obtain ⟨⟨k, e⟩, hs, he⟩ := Option.map_eq_some_iff.mp herror
    obtain ⟨⟨k', e'⟩, hs', hprinted⟩ := Option.map_eq_some_iff.mp hstdout
    obtain ⟨-, -, heq⟩ := hscript true true true 4 4 _ k k' e e' hs hs'
    obtain rfl : e = some (.run failure) := he
    exact ⟨k', hs'.trans (by rw [heq]), hprinted⟩

end TapeDeck
