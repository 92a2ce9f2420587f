import FixedWidth.Proofs.ProgramOutput
import FixedWidth.Proofs.UsableWidth
import Mathlib.Data.List.Nodup

/-!
# Titles on the command line

Titles may be given all at once or in several options, with the other options and the path of the
input before, between and after them.  While arguments are read, the titles so far and the values of
the other options stand in fields of their own, so that only the order of the titles counts.
-/

namespace FixedWidth.CommandLine

/-! ## Arguments that make up a command line -/

/-- What a command line gives besides titles.  Help and version are left out, for then nothing is
printed but what they ask for. -/
inductive Other where
  | format (name : String)
  | width (w : UInt64)
  | timing
  | input (path : String)
deriving DecidableEq

inductive Other.Kind where
  | format
  | width
  | timing
  | input
deriving DecidableEq

def Other.kind : Other → Kind
  | .format _ => .format
  | .width _ => .width
  | .timing => .timing
  | .input _ => .input

/-- The arguments that give an option its value: one with an equals sign, or two of which the second
does not look like an option. -/
inductive Assigns (s : Setting) (value : String) : List String → Prop
  | joined (name : String) (hname : Setting.ofName? name = some s) :
      Assigns s value ["--" ++ name ++ "=" ++ value]
  | apart (name : String) (hname : Setting.ofName? name = some s) (hvalue : isValue value = true) :
      Assigns s value ["--" ++ name, value]

inductive Other.Spelled : Other → List String → Prop
  | format {name : String} {words : List String} (h : Assigns .format name words) :
      Spelled (.format name) words
  | width {w : UInt64} {value : String} {words : List String} (hw : readWidth value = some w)
      (h : Assigns .width value words) : Spelled (.width w) words
  | timing : Spelled .timing ["--timing"]
  | input {path : String} (h : isValue path = true) : Spelled (.input path) [path]

/-- Arguments that give titles, in this order and cut into groups that are not empty, and other
things.  At the end of the options the input may follow. -/
inductive Gives : List String → List Other → List String → Prop
  | done : Gives [] [] []
  | titles {group titles : List String} {others : List Other} {words args : List String}
      (hgroup : group ≠ []) (hwords : Assigns .header (",".intercalate group) words)
      (h : Gives titles others args) : Gives (group ++ titles) others (words ++ args)
  | other {o : Other} {titles : List String} {others : List Other} {words args : List String}
      (hwords : o.Spelled words) (h : Gives titles others args) :
      Gives titles (o :: others) (words ++ args)
  | operands (paths : List String) : Gives [] (paths.map .input) ("--" :: paths)

/-! ## What has been given -/

namespace Given

def has (g : Given) : Other.Kind → Bool
  | .format => g.format.isSome
  | .width => g.width.isSome
  | .timing => g.timing
  | .input => g.input.isSome

def give (g : Given) : Other → Given
  | .format name => { g with format := some name }
  | .width w => { g with width := some w }
  | .timing => { g with timing := true }
  | .input path => { g with input := some path }

variable {g : Given} {o p : Other}

@[simp] theorem titles_give : (g.give o).titles = g.titles := by
  cases o <;> rfl

theorem has_give_of_ne {k : Other.Kind} (h : o.kind ≠ k) : (g.give o).has k = g.has k := by
  cases o <;> cases k <;> first | rfl | exact absurd rfl h

theorem give_withTitles (titles : List String) :
    { g.give o with titles } = { g with titles }.give o := by
  cases o <;> rfl

theorem give_comm (h : o.kind ≠ p.kind) : (g.give o).give p = (g.give p).give o := by
  cases o <;> cases p <;> first | rfl | exact absurd rfl h

/-- Things of different kinds can be given in any order. -/
theorem foldl_give_perm {others given : List Other} (hperm : others.Perm given)
    (honce : (others.map Other.kind).Nodup) (g : Given) :
    others.foldl give g = given.foldl give g := by
  refine hperm.foldl_eq' (fun o ho p hp g => ?_) g
  by_cases hkind : o.kind = p.kind
  · rw [List.inj_on_of_nodup_map honce ho hp hkind]
  · exact give_comm hkind

end Given

/-- The request for titles and what else is given, with defaults for what is not. -/
def requestOf (titles : List String) (others : List Other) : Request :=
  (others.foldl Given.give { titles }).request

theorem titles_requestOf (titles : List String) (others : List Other) :
    (requestOf titles others).titles = titles := by
  have hfold (g : Given) : (others.foldl Given.give g).titles = g.titles := by
    induction others generalizing g with
    | nil => rfl
    | cons o others ih => rw [List.foldl_cons, ih, Given.titles_give]
  exact hfold { titles }

/-! ## Reading arguments -/

theorem ofName?_eq_some {name : String} {s : Setting} (h : Setting.ofName? name = some s) :
    name ∈ ["format", "format-width", "width", "header"] := by
  unfold Setting.ofName? at h
  split at h
  · simp
  · simp
  · simp
  · simp
  · cases h

theorem ofString_name {name : String} {s : Setting} (h : Setting.ofName? name = some s) :
    Argument.ofString ("--" ++ name) = .setting s := by
  have hmem := ofName?_eq_some h
  simp only [List.mem_cons, List.not_mem_nil, or_false] at hmem
  rcases hmem with rfl | rfl | rfl | rfl <;> cases h <;> decide +kernel

theorem ofString_joined {name : String} {s : Setting} (h : Setting.ofName? name = some s)
    (value : String) : Argument.ofString ("--" ++ name ++ "=" ++ value) = .settingTo s value := by
  have hequals : ∀ c ∈ name.toList, decide (c ≠ '=') = true := by
    have hmem := ofName?_eq_some h
    simp only [List.mem_cons, List.not_mem_nil, or_false] at hmem
    rcases hmem with rfl | rfl | rfl | rfl <;> simp
  have hchars : ("--" ++ name ++ "=" ++ value).toList =
      '-' :: '-' :: (name.toList ++ '=' :: value.toList) := by
    simp
  have hname : (name.toList ++ '=' :: value.toList).takeWhile (· ≠ '=') = name.toList := by
    rw [List.takeWhile_append_of_pos hequals]
    simp
  have hvalue : (name.toList ++ '=' :: value.toList).dropWhile (· ≠ '=') = '=' :: value.toList := by
    rw [List.dropWhile_append_of_pos hequals]
    simp
  rw [Argument.ofString, hchars, Argument.ofChars, Argument.ofLong, hname, hvalue]
  · simp [Argument.ofNameAndValue, h]
  · simp

/-- A value that does not look like an option is read as an operand where no option awaits it. -/
theorem ofString_operand {path : String} (h : isValue path = true) :
    Argument.ofString path = .operand path := by
  obtain ⟨s, rfl⟩ : ∃ s, path = String.ofList s := ⟨path.toList, String.ofList_toList.symm⟩
  rw [isValue, String.toList_ofList] at h
  rw [Argument.ofString, String.toList_ofList]
  rcases s with _ | ⟨a, _ | ⟨b, s⟩⟩
  · rfl
  · rw [Argument.ofChars] <;> simp
  · have ha : a ≠ '-' := by
      rintro rfl
      cases h
    rw [Argument.ofChars] <;> simp [ha]

theorem readArguments_assigns {s : Setting} {value : String} {words : List String}
    (h : Assigns s value words) {g g' : Given} (hset : g.set s value = some g')
    (args : List String) :
    readArguments g none (words ++ args) = readArguments g' none args := by
  cases h with
  | joined name hname =>
      rw [List.singleton_append, readArguments]
      simp only [ofString_joined hname, hset]
  | apart name hname hvalue =>
      rw [List.cons_append, List.singleton_append, readArguments]
      simp only [ofString_name hname]
      rw [readArguments, if_pos hvalue, hset]

theorem readArguments_spelled {o : Other} {words : List String} (h : o.Spelled words) {g : Given}
    (habsent : g.has o.kind = false) (args : List String) :
    readArguments g none (words ++ args) = readArguments (g.give o) none args := by
  cases h with
  | format h => exact readArguments_assigns h (if_neg (Bool.eq_false_iff.1 habsent)) args
  | width hw h =>
      have hwidth : ¬g.width.isSome = true := Bool.eq_false_iff.1 habsent
      refine readArguments_assigns h ?_ args
      rw [Given.set, if_neg hwidth, hw]
      rfl
  | timing =>
      have htiming : Argument.ofString "--timing" = .timing := by decide +kernel
      have hset : g.setTiming = some (g.give .timing) := if_neg (Bool.eq_false_iff.1 habsent)
      rw [List.singleton_append, readArguments]
      simp only [htiming, hset]
  | @input path h =>
      have hset : g.setInput path = some (g.give (.input path)) :=
        if_neg (Bool.eq_false_iff.1 habsent)
      rw [List.singleton_append, readArguments]
      simp only [ofString_operand h, hset]

/-- The options have ended, and at most one path is left. -/
theorem readOperands_paths {paths : List String} {g : Given}
    (honce : ((paths.map Other.input).map Other.kind).Nodup)
    (habsent : ∀ o ∈ paths.map Other.input, g.has o.kind = false) :
    readOperands g paths = .print ((paths.map Other.input).foldl Given.give g).request := by
  rcases paths with _ | ⟨path, _ | ⟨other, paths⟩⟩
  · rfl
  · have hset : g.setInput path = some (g.give (.input path)) :=
      if_neg (Bool.eq_false_iff.1 (habsent (.input path) List.mem_cons_self))
    rw [readOperands, hset]
    rfl
  · simp [Other.kind] at honce

/-- What is left of the arguments adds its titles to those so far, and gives the rest. -/
theorem readArguments_gives {titles : List String} {others : List Other} {args : List String}
    (h : Gives titles others args) (hcommas : ∀ t ∈ titles, ',' ∉ t.toList)
    (honce : (others.map Other.kind).Nodup) {g : Given}
    (habsent : ∀ o ∈ others, g.has o.kind = false) :
    readArguments g none args =
      .print (others.foldl Given.give { g with titles := g.titles ++ titles }).request := by
  induction h generalizing g with
  | done =>
      rw [List.append_nil]
      rfl
  | @titles group titles others words args hgroup hwords _ ih =>
      rw [List.forall_mem_append] at hcommas
      have hset : g.set .header (",".intercalate group) =
          some { g with titles := g.titles ++ group } := by
        rw [Given.set, Text.splitString_intercalate rfl hgroup hcommas.1]
      have hrest : ∀ o ∈ others, { g with titles := g.titles ++ group }.has o.kind = false := by
        intro o ho
        rw [← habsent o ho]
        cases o <;> rfl
      rw [readArguments_assigns hwords hset, ih hcommas.2 honce hrest]
      simp only [List.append_assoc]
  | @other o titles others words args hwords _ ih =>
      rw [List.forall_mem_cons] at habsent
      rw [List.map_cons, List.nodup_cons] at honce
      have hrest : ∀ p ∈ others, (g.give o).has p.kind = false := by
        intro p hp
        have hkind : o.kind ≠ p.kind := fun hkind =>
          honce.1 (List.mem_map.2 ⟨p, hp, hkind.symm⟩)
        rw [Given.has_give_of_ne hkind, habsent.2 p hp]
      rw [readArguments_spelled hwords habsent.1, ih hcommas honce.2 hrest, Given.titles_give,
        Given.give_withTitles, List.foldl_cons]
  | operands paths =>
      have hend : Argument.ofString "--" = .endOfOptions := by decide +kernel
      rw [readArguments]
      simp only [hend]
      rw [readOperands_paths honce habsent, List.append_nil]

theorem ofArguments_gives {titles : List String} {others given : List Other} {args : List String}
    (hcommas : ∀ t ∈ titles, ',' ∉ t.toList) (honce : (others.map Other.kind).Nodup)
    (hperm : others.Perm given) (h : Gives titles given args) :
    Command.ofArguments args = .print (requestOf titles others) := by
  have hgiven : (given.map Other.kind).Nodup := (hperm.map Other.kind).nodup_iff.1 honce
  have habsent : ∀ o ∈ given, Given.has {} o.kind = false := by
    intro o _
    cases o <;> rfl
  rw [Command.ofArguments, readArguments_gives h hcommas hgiven habsent, requestOf,
    Given.foldl_give_perm hperm honce]
  rfl

/-! ## A run but for its time -/

/-- What can be seen of a run but for the time that the closing line shows. -/
structure Visible where
  exitCode : Nat
  stdout : List UInt8
  /-- the count in the closing line, if there is one -/
  closing : Option Nat

namespace Visible

/-- All that is written to standard output. -/
def bytes (v : Visible) (elapsed : Elapsed) : List UInt8 :=
  v.stdout ++ (v.closing.map (closingLine · elapsed)).getD []

def IsOf (v : Visible) (outcome : Outcome) (elapsed : Elapsed) : Prop :=
  outcome.exitCode = v.exitCode ∧ outcome.stdout = v.bytes elapsed

end Visible

theorem printAll_isOpen {s : Session} (h : s.sink.IsOpen) (rows : List (Except Failure Row)) :
    (s.printAll rows).2.sink.IsOpen := by
  induction rows generalizing s with
  | nil => exact h
  | cons item rows ih =>
      cases item with
      | error failure => exact h
      | ok row =>
          have hopen : (s.row row true).2.sink.IsOpen :=
            (Session.step_of_isOpen h (.row row true)).2
          rw [Session.printAll]
          rcases hrow : s.row row true with ⟨_ | failure, next⟩
          · rw [hrow] at hopen
            exact ih hopen
          · rw [hrow] at hopen
            exact hopen

theorem footer_of_isOpen {s : Session} (h : s.sink.IsOpen) (elapsed : Option Elapsed) :
    (s.footer elapsed).1 = none ∧ (s.footer elapsed).2.sink.taken.toList =
      s.sink.taken.toList ++ (elapsed.map (closingLine s.formatter.rowCount)).getD [] := by
  cases elapsed with
  | none => exact ⟨rfl, (List.append_nil _).symm⟩
  | some t =>
      have hnone : (s.footer (some t)).1 = none :=
        (Session.step_of_isOpen h (.footer (some t))).1.trans (if_pos (Nat.zero_le _))
      rw [Session.footer] at hnone ⊢
      rcases hdraw : s.sink.draw [.text (summary s.formatter.rowCount t), .newline] with
        ⟨failure, sink⟩
      rw [hdraw] at hnone
      obtain rfl : failure = none := hnone
      rw [← bytes_footer]
      exact ⟨rfl, (Sink.took_draw_of_none hdraw).2.taken⟩

/-- Only the closing line tells how long the printing took. -/
theorem exists_visible_printResult {s : Session} (h : s.sink.IsOpen) (titles : List String)
    (rows : List (Except Failure Row)) (timing : Bool) :
    ∃ v : Visible, ∀ elapsed,
      let result := printResult s titles rows (if timing then some elapsed else none)
      exitCode result.1 = v.exitCode ∧ result.2.sink.taken.toList = v.bytes elapsed := by
  have hready : (s.header titles).2.sink.IsOpen := (Session.step_of_isOpen h (.header titles)).2
  unfold printResult
  rcases hheader : s.header titles with ⟨_ | failure, ready⟩
  · rw [hheader] at hready
    have hprinted := printAll_isOpen hready rows
    rcases hall : ready.printAll rows with ⟨_ | failure, printed⟩
    · rw [hall] at hprinted
      let closing := if timing then some printed.formatter.rowCount else none
      refine ⟨⟨0, printed.sink.taken.toList, closing⟩, fun elapsed => ?_⟩
      obtain ⟨hnone, htaken⟩ := footer_of_isOpen hprinted (if timing then some elapsed else none)
      rcases hfooter : printed.footer (if timing then some elapsed else none) with ⟨fault, closed⟩
      rw [hfooter] at hnone htaken
      subst hnone
      dsimp only
      rw [hall]
      dsimp only
      rw [hfooter]
      refine ⟨rfl, htaken.trans ?_⟩
      cases timing <;> rfl
    · refine ⟨⟨exitCode (some failure), printed.sink.taken.toList, none⟩, fun _ => ?_⟩
      dsimp only
      rw [hall]
      exact ⟨rfl, (List.append_nil _).symm⟩
  · refine ⟨⟨exitCode (some failure), ready.sink.taken.toList, none⟩, fun _ => ?_⟩
    exact ⟨rfl, (List.append_nil _).symm⟩

theorem exists_visible_print (request : Request) (input : Except OpenFault Source) :
    ∃ v : Visible, ∀ filter elapsed, v.IsOf (print filter request input elapsed) elapsed := by
  have hrefused (outcome : Log.Filter → Elapsed → Outcome)
      (h : ∀ filter elapsed, ∃ stderr, outcome filter elapsed = ⟨1, [], stderr⟩) :
      ∃ v : Visible, ∀ filter elapsed, v.IsOf (outcome filter elapsed) elapsed := by
    refine ⟨⟨1, [], none⟩, fun filter elapsed => ?_⟩
    obtain ⟨stderr, hstderr⟩ := h filter elapsed
    rw [hstderr]
    exact ⟨rfl, rfl⟩
  unfold print
  cases Format.ofName request.format with
  | error failure => exact hrefused _ fun _ _ => ⟨_, rfl⟩
  | ok format =>
      cases input with
      | error fault => exact hrefused _ fun _ _ => ⟨_, rfl⟩
      | ok source =>
          dsimp only
          cases Formatter.ofOptions ⟨format, request.width⟩ with
          | error failure => exact hrefused _ fun _ _ => ⟨_, rfl⟩
          | ok f =>
              have hopen : Sink.IsOpen {} := ⟨rfl, by decide⟩
              obtain ⟨v, hv⟩ := exists_visible_printResult
                (s := ⟨f, {}, #[.ready f.width]⟩) hopen request.titles source.rows request.timing
              exact ⟨v, fun _ elapsed => hv elapsed⟩

/-- Titles without commas may be given in groups of any size, each in an option of its own, and
among any other options in any order.  What is asked for is always the same, namely these titles in
this order, and so is what can be seen of the run but for the time. -/
theorem titles_given_in_groups {titles : List String} {others : List Other}
    (hcommas : ∀ t ∈ titles, ',' ∉ t.toList) (honce : (others.map Other.kind).Nodup) :
    (requestOf titles others).titles = titles ∧
      (∀ given args, others.Perm given → Gives titles given args →
        Command.ofArguments args = .print (requestOf titles others)) ∧
      ∀ stdin files, ∃ v : Visible, ∀ given args log elapsed, others.Perm given →
        Gives titles given args → v.IsOf (run args log stdin files elapsed) elapsed := by
  refine ⟨titles_requestOf titles others, fun given args => ofArguments_gives hcommas honce,
    fun stdin files => ?_⟩
  obtain ⟨v, hv⟩ := exists_visible_print (requestOf titles others)
    (openInput stdin files (requestOf titles others).input)
  refine ⟨v, fun given args log elapsed hperm hgives => ?_⟩
  have hargs := ofArguments_gives hcommas honce hperm hgives
  have hrun : run args log stdin files elapsed = _ := run_of_print hargs log stdin files elapsed
  rw [hrun]
  obtain ⟨hexit, hstdout⟩ := hv (readFilter log).1 elapsed
  exact ⟨hexit, hstdout⟩

/-- A group of one empty title is an option without a value behind its equals sign. -/
theorem titles_given_together_and_apart :
    let titles := ["", "b"]
    let others : List Other := [.format "console", .width 4, .timing, .input "-"]
    let given : List Other := [.timing, .width 4, .format "console", .input "-"]
    let together := ["--header=,b", "--format=console", "--width=4", "--timing", "-"]
    let apart :=
      ["--timing", "--header=", "--format-width", "+4", "--format", "console", "--header=b", "--",
        "-"]
    (∀ t ∈ titles, ',' ∉ t.toList) ∧ (others.map Other.kind).Nodup ∧ others.Perm given ∧
      Gives titles others together ∧ Gives titles given apart ∧
      Command.ofArguments apart = .print ⟨"-", "console", 4, titles, true⟩ ∧
      ∀ stdin files, ∃ v : Visible, v.IsOf (run together none stdin files .none) .none ∧
        v.IsOf (run apart none stdin files .none) .none := by
  intro titles others given together apart
  have hcommas : ∀ t ∈ titles, ',' ∉ t.toList := by decide +kernel
  have honce : (others.map Other.kind).Nodup := by decide
  have hperm : others.Perm given := by decide
  have hfour : readWidth "4" = some 4 := by decide
  have hplus : readWidth "+4" = some 4 := by decide
  have htogether : Gives titles others together :=
    @Gives.titles titles [] _ ["--header=,b"] _ (by decide) (.joined "header" rfl) <|
      @Gives.other _ _ _ ["--format=console"] _ (.format (.joined "format" rfl)) <|
      @Gives.other _ _ _ ["--width=4"] _ (.width hfour (.joined "width" rfl)) <|
      @Gives.other _ _ _ ["--timing"] _ .timing <|
      @Gives.other _ _ _ ["-"] _ (.input rfl) .done
  have hapart : Gives titles given apart :=
    @Gives.other _ _ _ ["--timing"] _ .timing <|
      @Gives.titles [""] ["b"] _ ["--header="] _ (by decide) (.joined "header" rfl) <|
      @Gives.other _ _ _ ["--format-width", "+4"] _
        (.width hplus (.apart "format-width" rfl rfl)) <|
      @Gives.other _ _ _ ["--format", "console"] _ (.format (.apart "format" rfl rfl)) <|
      @Gives.titles ["b"] [] _ ["--header=b"] _ (by decide) (.joined "header" rfl) <|
      .operands ["-"]
  obtain ⟨-, hrequest, hruns⟩ := titles_given_in_groups hcommas honce
  refine ⟨hcommas, honce, hperm, htogether, hapart, (hrequest given apart hperm hapart).trans ?_,
    fun stdin files => ?_⟩
  · decide +kernel
  · obtain ⟨v, hv⟩ := hruns stdin files
    exact ⟨v, hv others together none .none (.refl others) htogether,
      hv given apart none .none hperm hapart⟩

end FixedWidth.CommandLine
