import HotReload.Proofs.Execution
import HotReload.Proofs.Tables

/-!
# The files that an app starts with

Before the session starts, commands declare the files that the app will start with. What they come
to can be told from the commands alone (`initText?`). A text that is given for a file becomes the
argument of the template of its path, or stands as it is when the path has none; a template is
applied without an argument, and is the template of its path from then on; a file can be removed
again. Declaring an update puts the declared files in this update in the place of all that was
given before: of each file the text that it has for the update, or else its universal text.

The runner keeps tables of templates, of contents and of first files instead. While declarations are
collected, these tables always agree with the commands (`Standing.Accounts`, `declared_perform`).
-/

set_option autoImplicit false

namespace HotReload

variable {W α β γ : Type}

/-! ## What commands declare -/

/-- The command that is heard in a line, unless it is refused. -/
def Moment.heard? (line : Moment α) : Option (Command α) :=
  match line.event, line.standing.aborted with
  | .dispatched command, none => some command
  | _, _ => none

/-- What the newest command that says something about a matter says, by the commands in a
journal. -/
def latest? (told : Command α → Option β) (journal : List (Moment α)) : Option β :=
  journal.findSome? fun line => line.heard?.bind told

theorem latest?_cons (told : Command α → Option β) (newest : Moment α)
    (older : List (Moment α)) :
    latest? told (newest :: older) = (newest.heard?.bind told).or (latest? told older) := by
  rw [latest?, List.findSome?_cons]
  cases newest.heard?.bind told <;> rfl

/-- The template that is given for a file. -/
def FileValue.template? : FileValue → Option Template
  | .template maker => some maker
  | .text _ | .remove => none

/-- The template that a command declares for a path. -/
def Command.template? (path : String) : Command α → Option Template
  | .templates given => given.find? path
  | .init (.files given) => (given.find? path).bind FileValue.template?
  | _ => none

/-- The content that a command declares for a path. A spec that cannot be read declares none. -/
def Command.content? (path : String) : Command α → Option Content
  | .contents files => (files.find? path).map ContentSource.content
  | .spec source _ =>
    match Spec.Document.read "spec" source with
    | .ok document => (Table.ofList document.contents).find? path
    | .error _ => none
  | _ => none

/-- The text that is given for a file whose path has a template or none. -/
def FileValue.textWith? (registered : Option Template) : FileValue → Option String
  | .text given =>
    match registered with
    | some maker => some (maker.apply (some given))
    | none => some given
  | .template maker => some (maker.apply none)
  | .remove => none

/-- The text of a file that the app starts with, by the commands in a journal. -/
def initText? (path : String) : List (Moment α) → Option String
  | [] => none
  | line :: older =>
    match line.heard? with
    | some (.init (.files given)) =>
      match given.find? path with
      | some value => value.textWith? (latest? (Command.template? path) older)
      | none => initText? path older
    | some (.init (.label update)) =>
      match latest? (Command.content? path) older with
      | some content => (content.find? update).or (content.find? .universal)
      | none => none
    | _ => initText? path older

/-! ## Tables of first files -/

/-- The files that an app starts with when it starts with some changes. -/
def startFiles (changes : Changes) : Table String String :=
  changes.entries.foldl (fun inits change => Standing.changeInit inits change.1 change.2) {}

namespace Standing

theorem find?_changeInit (inits : Table String String) (path other : String)
    (change : FileChange) :
    (changeInit inits path change).find? other =
      if compare other path = .eq then change.text? else inits.find? other := by
  cases change with
  | write text => exact Table.find?_insert inits path other text
  | remove => exact Table.find?_erase inits path other

theorem find?_changeInits (inits : Table String String) (pairs : List (String × FileChange))
    (path : String) :
    (pairs.foldl (fun inits change => changeInit inits change.1 change.2) inits).find? path =
      match (Table.ofList pairs).find? path with
      | some change => change.text?
      | none => inits.find? path := by
  induction pairs using List.reverseRecOn with
  | nil => rfl
  | append_singleton pairs last ih =>
      rw [List.foldl_append, List.foldl_cons, List.foldl_nil, find?_changeInit, ih,
        Table.ofList_concat, Table.find?_insert]
      split <;> rfl

theorem find?_changesFor (known : Standing α) (label : Label) (path : String) :
    (known.changesFor label).find? path =
      (known.specs.find? path).map fun content =>
        match content.textAt? label with
        | some text => .write text
        | none => .remove :=
  Table.find?_mapValues _ _ _

end Standing

/-- A file is there at the start unless it is removed. -/
theorem find?_startFiles (changes : Changes) (path : String) :
    (startFiles changes).find? path = (changes.find? path).bind FileChange.text? := by
  rw [startFiles, Standing.find?_changeInits, Table.ofList_entries]
  cases changes.find? path <;> rfl

/-! ## Rendering -/

namespace Standing

/-- A file is rendered with the template of its own path. -/
theorem text?_renderFile (templates : Table String Template) (path : String) (value : FileValue) :
    (renderFile templates path value).1.text? = value.textWith? (templates.find? path) := by
  cases value with
  | text text =>
      simp only [renderFile, FileValue.textWith?]
      cases templates.find? path <;> rfl
  | template | remove => rfl

/-- Only a template that is given for a file becomes the template of its path. -/
theorem find?_templates_renderFile (templates : Table String Template) (path other : String)
    (value : FileValue) :
    (renderFile templates path value).2.find? other =
      ((if compare other path = .eq then value.template? else none)).or
        (templates.find? other) := by
  cases value with
  | text text =>
      simp only [renderFile, FileValue.template?]
      cases templates.find? path <;> simp
  | template template =>
      simp only [renderFile, FileValue.template?, Table.find?_insert]
      split <;> rfl
  | remove => simp [renderFile, FileValue.template?]

theorem find?_templates_renderEach (templates : Table String Template) (changes : Changes)
    {pairs : List (String × FileValue)} (apart : (pairs.map Prod.fst).Nodup) (path : String) :
    (renderEach templates changes pairs).2.find? path =
      (((Table.ofList pairs).find? path).bind FileValue.template?).or (templates.find? path) := by
  induction pairs generalizing templates changes with
  | nil => rfl
  | cons pair rest ih =>
      obtain ⟨fresh, others⟩ := List.nodup_cons.1 apart
      rw [renderEach, ih _ _ others, find?_templates_renderFile, Table.find?_ofList_cons]
      cases found : (Table.ofList rest).find? path with
      | none =>
          rw [Option.none_or, Option.bind_none, Option.none_or]
          split <;> rfl
      | some later =>
          have differs : compare path pair.1 ≠ .eq := by
            intro same
            obtain rfl := Std.LawfulEqOrd.eq_of_compare same
            exact nomatch (Table.find?_ofList_of_notMem fresh).symm.trans found
          rw [if_neg differs, if_neg differs, Option.or_none, Option.none_or]

theorem text?_renderEach (templates : Table String Template) (changes : Changes)
    {pairs : List (String × FileValue)} (apart : (pairs.map Prod.fst).Nodup) (path : String) :
    ((renderEach templates changes pairs).1.find? path).map FileChange.text? =
      (((Table.ofList pairs).find? path).map (FileValue.textWith? (templates.find? path))).or
        ((changes.find? path).map FileChange.text?) := by
  induction pairs generalizing templates changes with
  | nil => rfl
  | cons pair rest ih =>
      obtain ⟨fresh, others⟩ := List.nodup_cons.1 apart
      rw [renderEach, ih _ _ others, find?_templates_renderFile, Table.find?_ofList_cons,
        Table.find?_insert]
      by_cases same : compare path pair.1 = .eq
      · obtain rfl := Std.LawfulEqOrd.eq_of_compare same
        simp [Table.find?_ofList_of_notMem fresh, text?_renderFile]
      · simp [same]

variable (known : Standing α) (given : Table String FileValue)

/-- **What is given for a file decides its text**: with the template of its path before. -/
theorem text?_render (path : String) :
    ((known.render given).1.find? path).map FileChange.text? =
      (given.find? path).map (FileValue.textWith? (known.templates.find? path)) := by
  have each := text?_renderEach known.templates {} (Table.nodup_keys given) path
  rw [Table.ofList_entries] at each
  rwa [show (({} : Changes).find? path) = none from rfl, Option.map_none, Option.or_none] at each

/-- **A template that is given for a file is the template of its path from then on.** -/
theorem find?_templates_render (path : String) :
    (known.render given).2.templates.find? path =
      ((given.find? path).bind FileValue.template?).or (known.templates.find? path) := by
  have each := find?_templates_renderEach known.templates {} (Table.nodup_keys given) path
  rw [Table.ofList_entries] at each
  exact each

end Standing

/-! ## Declarations -/

/-- What is known of files is what the commands in a journal say. -/
structure Standing.Accounts (known : Standing α) (journal : List (Moment α)) : Prop where
  templates : ∀ path, known.templates.find? path = latest? (Command.template? path) journal
  specs : ∀ path, known.specs.find? path = latest? (Command.content? path) journal
  inits : ∀ path, known.inits.find? path = initText? path journal

namespace Standing.Accounts

variable {known after : Standing α} {journal : List (Moment α)} {line : Moment α}

theorem initial : ({} : Standing α).Accounts [] where
  templates _ := rfl
  specs _ := rfl
  inits _ := rfl

/-- A line in which no command is heard says nothing of files. -/
theorem unheard (accounts : known.Accounts journal) (unheard : line.heard? = none) :
    known.Accounts (line :: journal) where
  templates path := by
    rw [latest?_cons, unheard]
    exact accounts.templates path
  specs path := by
    rw [latest?_cons, unheard]
    exact accounts.specs path
  inits path := by
    rw [initText?, unheard]
    exact accounts.inits path

/-- A command that is no declaration of first files leaves them as they are. -/
theorem heard {command : Command α} (accounts : known.Accounts journal)
    (heard : line.heard? = some command) (other : ∀ target, command ≠ .init target)
    (templates : ∀ path, after.templates.find? path =
      (command.template? path).or (known.templates.find? path))
    (specs : ∀ path, after.specs.find? path = (command.content? path).or (known.specs.find? path))
    (inits : after.inits = known.inits) : after.Accounts (line :: journal) where
  templates path := by
    rw [latest?_cons, heard, Option.bind_some, templates, accounts.templates]
  specs path := by
    rw [latest?_cons, heard, Option.bind_some, specs, accounts.specs]
  inits path := by
    rw [inits, accounts.inits, initText?, heard]
    cases command with
    | init target => exact absurd rfl (other target)
    | _ => rfl

/-- A command that needs the app declares nothing. -/
theorem needing {command : Command α} (accounts : known.Accounts journal)
    (heard : line.heard? = some command) (needs : command.isSetup = false) :
    known.Accounts (line :: journal) := by
  refine accounts.heard heard (fun target same => ?_) (fun path => ?_) (fun path => ?_) rfl
  · rw [same] at needs
    exact nomatch needs
  · cases command with
    | templates | init => exact nomatch needs
    | _ => exact Option.none_or.symm
  · cases command with
    | contents | spec => exact nomatch needs
    | _ => exact Option.none_or.symm

end Standing.Accounts

namespace Runner

/-- An action that declares at most entries: it writes nothing into the journal, and it leaves all
that is known of files as it is. -/
def Declaring (action : Act W α β) : Prop :=
  ∀ run, ∃ expects remaining,
    (action.runOn run).2 = run.knowing { run.standing with expects, remaining }

/-- An action that leaves the run as it is. -/
theorem Declaring.of_silent {action : Act W α β} (silent : ∀ run, (action.runOn run).2 = run) :
    Declaring action := by
  intro run
  rw [silent run]
  exact ⟨_, _, rfl⟩

theorem Declaring.bind {first : Act W α β} {next : β → Act W α γ} (head : Declaring first)
    (tail : ∀ answer, Declaring (next answer)) : Declaring (first >>= next) := by
  intro run
  rw [Action.runOn_bind]
  obtain ⟨expects, remaining, same⟩ := head run
  cases ran : first.runOn run with
  | mk result middle =>
      rw [ran] at same
      obtain rfl : middle = _ := same
      cases result with
      | error failure => exact ⟨expects, remaining, rfl⟩
      | ok answer => exact tail answer _

theorem declaring_register (label : Label) (entry : Entry α) :
    Declaring (register label entry : Act W α Unit) := by
  intro run
  rw [register, Action.runOn_bind_ok (runOn_standing run)]
  cases run.standing.started with
  | true => exact ⟨_, _, rfl⟩
  | false =>
      cases found : run.standing.expects.find? fun expect => expect.1 == label with
      | none => exact ⟨_, _, rfl⟩
      | some expect =>
          refine Declaring.bind (fun _ => ⟨_, _, rfl⟩) (fun _ => ?_) run
          dsimp only
          split <;> exact .of_silent fun _ => rfl

theorem declaring_registerEach (entries : List (Label × Entry α)) :
    Declaring (registerEach entries : Act W α Unit) := by
  induction entries with
  | nil => exact .of_silent fun _ => rfl
  | cons first rest ih => exact (declaring_register first.1 first.2).bind fun _ => ih

/-- A spec that can be read declares the contents of its files, whatever comes of its entries. -/
theorem exists_registerSpec (source : String) (subs : List α) (run : Run W α) :
    ∃ specs expects remaining,
      ((registerSpec source subs : Act W α Unit).runOn run).2 =
        run.knowing { run.standing with specs, expects, remaining } ∧
      ∀ path, specs.find? path =
        ((Command.spec source subs).content? path).or (run.standing.specs.find? path) := by
  rw [registerSpec, Action.runOn_bind, Action.runOn_ofExcept]
  cases reads : Spec.Document.read "spec" source with
  | error failure => exact ⟨_, _, _, rfl, fun path => by simp [Command.content?, reads]⟩
  | ok document =>
      have rest : Declaring (Action.ofExcept (document.expects ⟨.compile, some "spec"⟩ subs) >>=
          fun entries => registerEach entries : Act W α Unit) :=
        Declaring.bind (.of_silent fun _ => rfl) declaring_registerEach
      obtain ⟨expects, remaining, same⟩ := rest (run.knowing { run.standing with
        specs := document.contents.foldl (fun specs file => specs.insert file.1 file.2)
          run.standing.specs })
      refine ⟨_, expects, remaining, same, fun path => ?_⟩
      refine (Table.find?_foldl_insert run.standing.specs document.contents path).trans ?_
      simp only [Command.content?, reads]

variable {run : Run W α} {journal : List (Moment α)}

/-- Between two runs, just what a command declares has become known. -/
def Declared (command : Command α) (journal : List (Moment α)) (run after : Run W α) : Prop :=
  ∃ known, after = run.knowing known ∧ known.started = run.standing.started ∧
    known.cursor = run.standing.cursor ∧
    known.Accounts (⟨.dispatched command, run.standing⟩ :: journal)

/-- What is declared does not depend on the reply. -/
theorem Declared.reply {command : Command α} {action : Act W α Unit} (reply : Reply)
    (declared : Declared command journal run (action.runOn run).2) :
    Declared command journal run
      ((action >>= fun _ => pure reply : Act W α Reply).runOn run).2 := by
  rw [Action.runOn_bind]
  cases ran : action.runOn run with
  | mk result after =>
      rw [ran] at declared
      cases result <;> exact declared

section Declarations

variable (fresh : run.standing.started = false) (goesOn : run.standing.aborted = none)
  (accounts : run.standing.Accounts journal)

include goesOn

/-- While a run goes on, a command is heard. -/
theorem heard?_dispatched (command : Command α) :
    (⟨.dispatched command, run.standing⟩ : Moment α).heard? = some command := by
  rw [Moment.heard?, goesOn]

include accounts

/-- A command that declares entries leaves all that is known of files as it is. -/
theorem Declaring.declared {command : Command α} {action : Act W α Unit}
    (declaring : Declaring action) (other : ∀ target, command ≠ .init target)
    (noTemplate : ∀ path, command.template? path = none)
    (noContent : ∀ path, command.content? path = none) :
    Declared command journal run (action.runOn run).2 := by
  obtain ⟨expects, remaining, same⟩ := declaring run
  refine ⟨_, same, rfl, rfl,
    accounts.heard (heard?_dispatched goesOn command) other (fun path => ?_) (fun path => ?_) rfl⟩
  · rw [noTemplate, Option.none_or]
  · rw [noContent, Option.none_or]

include fresh

/-- **Declaring first files does what the command says.** -/
theorem declared_declareInit (target : Target) :
    Declared (.init target) journal run ((declareInit target : Act W α Unit).runOn run).2 := by
  have heard := heard?_dispatched goesOn (.init target)
  rw [declareInit, Action.runOn_bind_ok (runOn_standing run), fresh]
  cases target with
  | files given =>
      refine ⟨_, rfl, rfl, rfl, fun path => ?_, fun path => ?_, fun path => ?_⟩
      · rw [latest?_cons, heard]
        exact (run.standing.find?_templates_render given path).trans
          (congrArg (Option.or _) (accounts.templates path))
      · rw [latest?_cons, heard]
        exact accounts.specs path
      · have changed := Standing.find?_changeInits run.standing.inits
          (run.standing.render given).1.entries path
        have rendered := run.standing.text?_render given path
        rw [Table.ofList_entries] at changed
        refine changed.trans ?_
        rw [initText?, heard, ← accounts.templates path, ← accounts.inits path]
        dsimp only
        cases found : given.find? path with
        | none =>
            rw [found, Option.map_none, Option.map_eq_none_iff] at rendered
            rw [rendered]
        | some value =>
            rw [found, Option.map_some, Option.map_eq_some_iff] at rendered
            obtain ⟨change, there, text⟩ := rendered
            rw [there]
            exact text
  | label update =>
      refine ⟨_, rfl, rfl, rfl, fun path => ?_, fun path => ?_, fun path => ?_⟩
      · rw [latest?_cons, heard]
        exact accounts.templates path
      · rw [latest?_cons, heard]
        exact accounts.specs path
      · refine (find?_startFiles (run.standing.changesFor update) path).trans ?_
        rw [initText?, heard, Standing.find?_changesFor, accounts.specs path]
        cases latest? (Command.content? path) journal with
        | none => rfl
        | some content =>
            simp only [Option.map_some, Option.bind_some, Content.textAt?]
            cases (content.find? update).or (content.find? .universal) <;> rfl

/-- **Commands that do not need the app declare just what they say.** -/
theorem declared_perform (setting : Setting W α) (due : Option Label → Act W α Unit)
    {command : Command α} (setup : command.isSetup = true) :
    Declared command journal run ((perform setting due command).runOn run).2 := by
  have heard := heard?_dispatched goesOn command
  cases command with
  | init target => exact (declared_declareInit fresh goesOn accounts target).reply .done
  | templates given =>
      refine ⟨_, rfl, rfl, rfl, accounts.heard heard nofun (fun path => ?_) (fun _ => ?_) rfl⟩
      · exact Table.find?_override run.standing.templates given path
      · exact Option.none_or.symm
  | spec source subs =>
      obtain ⟨specs, expects, remaining, ran, contents⟩ := exists_registerSpec source subs run
      refine Declared.reply .done ⟨_, ran, rfl, rfl, ?_⟩
      exact accounts.heard heard nofun (fun _ => Option.none_or.symm) contents rfl
  | contents files =>
      refine ⟨_, rfl, rfl, rfl,
        accounts.heard heard nofun (fun _ => Option.none_or.symm) (fun path => ?_) rfl⟩
      have given := Table.ofList_entries (files.mapValues fun _ source => source.content)
      refine (Table.find?_foldl_insert run.standing.specs _ path).trans
        (congrArg (Option.or · _) ?_)
      refine (congrArg (Table.find? · path) given).trans ?_
      exact Table.find?_mapValues _ files path
  | expect steps =>
      refine Declared.reply .done ?_
      exact (declaring_registerEach _).declared goesOn accounts nofun (fun _ => rfl) fun _ => rfl
  | before label sub =>
      refine Declared.reply .done ?_
      exact (declaring_register _ _).declared goesOn accounts nofun (fun _ => rfl) fun _ => rfl
  | after label sub =>
      refine Declared.reply .done ?_
      exact (declaring_register _ _).declared goesOn accounts nofun (fun _ => rfl) fun _ => rfl
  | discard =>
      have forgets : Declaring (revise fun standing => { standing with
          expects := [], remaining := standing.remaining.map fun _ => {} } : Act W α Unit) :=
        fun run => ⟨[], run.standing.remaining.map fun _ => {}, rfl⟩
      refine Declared.reply .done ?_
      exact forgets.declared goesOn accounts nofun (fun _ => rfl) fun _ => rfl
  | debug =>
      exact ⟨_, rfl, rfl, rfl, accounts.heard heard nofun (fun _ => Option.none_or.symm)
        (fun _ => Option.none_or.symm) rfl⟩
  | flush | change | page | innerText | wait => exact nomatch setup

end Declarations

end Runner

end HotReload
