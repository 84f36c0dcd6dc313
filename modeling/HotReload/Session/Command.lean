import HotReload.Content
import HotReload.Entry
import HotReload.Failure
import HotReload.Json

/-!
# Commands and replies

A test talks to its runner by commands and gets a reply to each. Most commands
declare something: files, specs, expectations. The others change the app, read the
page or wait; the first of these starts the session.

Sub-procedures and functions stand in commands by their handles, of a type `α`.
-/

set_option autoImplicit false

namespace HotReload

open Text (Form)

/-! ## What commands carry -/

/-- Makes the text of a file from an optional argument. -/
inductive Template
  | literal (text : String)
  | render (text : Option String → String)

/-- The text a template makes. -/
def Template.apply (argument : Option String) : Template → String
  | .literal text => text
  | .render text => text argument

/-- What is given for one file. -/
inductive FileValue
  /-- A text, or the argument of the template of the path. -/
  | text (text : String)
  /-- The template of the path from now on, which is applied without argument. -/
  | template (template : Template)
  | remove

/-- Files that are given, or the update whose files are meant. -/
inductive Target
  | files (files : Table String FileValue)
  | label (label : Label)

/-- How the content of a file is given. -/
inductive ContentSource
  | text (text : String)
  /-- Texts for single updates; of two texts for one update the later one counts. -/
  | labelled (texts : List (Label × String))

/-- The content that is given. -/
def ContentSource.content : ContentSource → Content
  | .text always => Table.ofList [(.universal, always)]
  | .labelled texts => Table.ofList texts

/-- What a test asks of its runner. -/
inductive Command (α : Type)
  /-- Declares the files the app starts with, or the update it starts with. -/
  | init (target : Target)
  | templates (templates : Table String Template)
  /-- Declares a spec, whose markers refer to the sub-procedures. -/
  | spec (source : String) (subs : List α)
  | contents (files : Table String ContentSource)
  /-- Declares steps, each for one label. -/
  | expect (steps : List (Label × Step α))
  | before (label : Label) (sub : α)
  | after (label : Label) (sub : α)
  /-- Runs all remaining entries. -/
  | flush
  /-- Forgets all entries. -/
  | discard
  /-- Changes files, or moves the app to an update and runs what is due. -/
  | change (target : Target)
  /-- Reads or calls what a path of the page leads to. -/
  | page (path : List String) (arguments : List Json)
  | innerText (selector : String)
  /-- Asks for a view of the runner's state. -/
  | debug
  /-- Waits for a condition of the build server. -/
  | wait (what : String)

/-! ## Replies -/

/-- A view of the runner's state. -/
structure Snapshot where
  started : Bool
  /-- The paths that have a template. -/
  templates : List String
  /-- The files the app starts with. -/
  inits : Table String String
  /-- The contents of the declared files. -/
  specs : Table String Content
  /-- The declared entries, in the order of declaration. -/
  expects : List (Label × Entry Unit)
  /-- The entries that have not begun, once the session has started. -/
  remaining : Option (List (Label × Entry Unit))
  /-- The update the app starts with. -/
  initLabel : Option Label
  /-- The update the app shows. -/
  cursor : Option Label

/-- The answer to a command. -/
inductive Reply
  | done
  | value (value : Json)
  | text (text : String)
  | snapshot (snapshot : Snapshot)

namespace Reply

/-- The kind of a reply. -/
def kind : Reply → String
  | .done => "done"
  | .value _ => "value"
  | .text _ => "text"
  | .snapshot _ => "snapshot"

/-- The failure of a reply of another kind than asked for. -/
def unexpected (reply : Reply) (expected : String) : Failure :=
  { cause := .unexpectedReply expected reply.kind, phase := .protocol }

/-- The reply as a value; a text is one. -/
def asValue : Reply → Except Failure Json
  | .value answer => .ok answer
  | .text answer => .ok (.string answer)
  | reply => .error (reply.unexpected "value")

/-- The reply as a text; a value that is a string is one. -/
def asText : Reply → Except Failure String
  | .text answer => .ok answer
  | .value (.string answer) => .ok answer
  | reply => .error (reply.unexpected "text")

/-- The reply as a view of the state. -/
def asSnapshot : Reply → Except Failure Snapshot
  | .snapshot answer => .ok answer
  | reply => .error (reply.unexpected "snapshot")

end Reply

/-! ## Kinds of commands -/

/-- The kinds of commands. -/
inductive CommandTag
  | init
  | templates
  | specs
  | expect
  | expectBefore
  | expectAfter
  | flushExpects
  | discardExpects
  | change
  | page
  | innerText
  | debug
  | wait
deriving DecidableEq, Repr

/-- The name of a kind. -/
def CommandTag.name : CommandTag → String
  | .init => "init"
  | .templates => "templates"
  | .specs => "specs"
  | .expect => "expect"
  | .expectBefore => "expect_before"
  | .expectAfter => "expect_after"
  | .flushExpects => "flush_expects"
  | .discardExpects => "discard_expects"
  | .change => "change"
  | .page => "page"
  | .innerText => "inner_text"
  | .debug => "debug"
  | .wait => "wait"

/-- Whether commands of a kind are carried out without starting the session. -/
def CommandTag.isSetup : CommandTag → Bool
  | .init | .templates | .specs | .expect | .expectBefore | .expectAfter | .discardExpects
  | .debug => true
  | .flushExpects | .change | .page | .innerText | .wait => false

namespace Command

variable {α : Type}

/-- The kind of a command. -/
def tag : Command α → CommandTag
  | .init _ => .init
  | .templates _ => .templates
  | .spec _ _ | .contents _ => .specs
  | .expect _ => .expect
  | .before _ _ => .expectBefore
  | .after _ _ => .expectAfter
  | .flush => .flushExpects
  | .discard => .discardExpects
  | .change _ => .change
  | .page _ _ => .page
  | .innerText _ => .innerText
  | .debug => .debug
  | .wait _ => .wait

/-- Whether a command is carried out without starting the session. -/
def isSetup (command : Command α) : Bool :=
  command.tag.isSetup

end Command

/-! ## Structural forms -/

/-- A table shows its entries with quoted keys. -/
def Table.form {ν : Type} (value : ν → Form) (table : Table String ν) : Form :=
  .mapping (table.entries.map fun entry => (Text.quoted entry.1, value entry.2))

/-- A template shows its text, if it has one of its own. -/
def Template.form : Template → Form
  | .literal always => .tagged "Literal" [.text always]
  | .render _ => .atom "Render(<fn>)"

/-- A file value shows its kind and what it holds. -/
def FileValue.form : FileValue → Form
  | .text given => .tagged "Text" [.text given]
  | .template given => .tagged "Template" [given.form]
  | .remove => .atom "Remove"

/-- A target shows its files or its label. -/
def Target.form : Target → Form
  | .files given => .tagged "Files" [given.form FileValue.form]
  | .label update => .tagged "Label" [update.form]

/-- A content source shows its text or its texts. -/
def ContentSource.form : ContentSource → Form
  | .text always => .tagged "Text" [.text always]
  | .labelled texts =>
    .tagged "Labeled" [.sequence (texts.map fun pair =>
      .tagged "" [pair.1.form, .text pair.2])]

/-- A command shows its kind and what it carries; handles are not shown. -/
def Command.form {α : Type} : Command α → Form
  | .init target => .tagged "Init" [target.form]
  | .templates given => .tagged "Templates" [given.form Template.form]
  | .spec source subs =>
    .tagged "Specs" [.record "Text" [("source", .text source), ("subs", .nat subs.length)]]
  | .contents files => .tagged "Specs" [.tagged "Map" [files.form ContentSource.form]]
  | .expect steps =>
    .tagged "Expect" [.sequence (steps.map fun step =>
      .tagged "" [step.1.form, step.2.form])]
  | .before label _ =>
    .record "ExpectBefore" [("label", label.form), ("sub", .atom "<procedure>")]
  | .after label _ =>
    .record "ExpectAfter" [("label", label.form), ("sub", .atom "<procedure>")]
  | .flush => .atom "FlushExpects"
  | .discard => .atom "DiscardExpects"
  | .change target => .tagged "Change" [target.form]
  | .page path arguments =>
    .record "Page" [
      ("path", .record "PagePath" [("segments", .sequence (path.map Form.text))]),
      ("args", .sequence (arguments.map Json.form))]
  | .innerText selector => .record "InnerText" [("selector", .text selector)]
  | .debug => .atom "Debug"
  | .wait what => .record "Wait" [("what", .text what)]

end HotReload
