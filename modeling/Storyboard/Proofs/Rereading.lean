import Mathlib.Data.List.Forall2
import Storyboard.App
import Storyboard.Proofs.Node.Decoding
import Storyboard.Proofs.Node.Records

/-!
# Apps written and read again

An app is read from a table or a list, with fields in any order, some of them missing and others
that are passed over.  Whatever was read is written as a table and read again as an equal app: the
same screens and variables in the same order, with equal values and every key in its place.
-/

namespace Storyboard

open Json

/-! ## What is read -/

namespace Screen

/-- What holds of a screen that is read, where containers may nest to a limit: its event is not
`null`, its fields are none of the others, and no key comes twice. -/
structure Readable (limit : Nat) (screen : Screen) : Prop where
  /-- The event. -/
  event : ∀ event, screen.onAppear = some event →
    event ≠ .null ∧ event.DistinctKeys ∧ event.depth < limit
  /-- Everything else. -/
  others : ∀ entry ∈ screen.body, (entry.1 ≠ "id" ∧ entry.1 ≠ "onAppear") ∧
    entry.2.DistinctKeys ∧ entry.2.depth < limit
  /-- No key comes twice. -/
  distinct : Table.Distinct screen.body

/-- What holds of a screen as far as it is given. -/
structure Given.Readable (depth : Nat) (given : Given) : Prop where
  /-- The event, if it is not `null`. -/
  event : ∀ event, given.onAppear = some (some event) →
    event ≠ .null ∧ event.DistinctKeys ∧ event.depth ≤ depth
  /-- Everything else. -/
  others : ∀ entry ∈ given.body, (entry.1 ≠ "id" ∧ entry.1 ≠ "onAppear") ∧
    entry.2.DistinctKeys ∧ entry.2.depth ≤ depth

theorem readable_start (depth : Nat) : ({} : Given).Readable depth where
  event _ same := by cases same
  others _ member := by cases member

theorem keeps_readable : shape.Keeps Given.Readable where
  fill field member depth given readable := by
    rcases List.mem_cons.mp member with rfl | member
    · exact Yields.slot fun _ _ _ _ => ⟨readable.event, readable.others⟩
    · obtain rfl := List.mem_singleton.mp member
      refine Yields.slot fun text value rest taken => ⟨fun event same => ?_, readable.others⟩
      exact Node.yields_optional depth text value rest taken event (Option.some.inj same)
  other name absent depth given readable := by
    have apart : name ≠ "id" ∧ name ≠ "onAppear" :=
      ⟨(absent _ List.mem_cons_self).symm,
        (absent _ (List.mem_cons_of_mem _ List.mem_cons_self)).symm⟩
    refine Yields.mapValue fun text value rest read => ⟨readable.event, fun entry member => ?_⟩
    rcases List.mem_append.mp member with before | itself
    · exact readable.others entry before
    · obtain rfl := List.mem_singleton.mp itself
      exact ⟨apart, Node.yields_reader depth text value rest read⟩

theorem yields_readable (limit : Nat) : Yields (reader limit) (Readable limit) := by
  intro text screen rest read
  obtain ⟨depth, given, rfl, readable, made⟩ :=
    keeps_readable.read readable_start _ limit text screen rest read
  obtain ⟨id, -, rfl⟩ := Option.map_eq_some_iff.mp made
  refine ⟨fun event same => ?_, fun entry member => ?_, Table.distinct_ofEntries given.body⟩
  · obtain ⟨present, distinct, shallow⟩ := readable.event event (Option.join_eq_some_iff.mp same)
    exact ⟨present, distinct, Nat.lt_succ_of_le shallow⟩
  · obtain ⟨apart, distinct, shallow⟩ :=
      readable.others entry (Table.mem_of_mem_ofEntries member)
    exact ⟨apart, distinct, Nat.lt_succ_of_le shallow⟩

end Screen

namespace App

/-- What holds of an app that is read, where containers may nest to a limit inside its list of
screens and inside its table of variables. -/
structure Readable (limit : Nat) (app : App) : Prop where
  /-- The screens. -/
  screens : ∀ screen ∈ app.screens, screen.Readable limit
  /-- No variable comes twice. -/
  distinct : Table.Distinct app.bindings
  /-- The values of the variables. -/
  values : ∀ entry ∈ app.bindings, entry.2.DistinctKeys ∧ entry.2.depth ≤ limit

/-- What holds of an app as far as it is given. -/
structure Given.Readable (depth : Nat) (given : Given) : Prop where
  /-- The screens. -/
  screens : ∀ screens, given.screens = some screens →
    ∃ limit, depth = limit + 1 ∧ ∀ screen ∈ screens, screen.Readable limit
  /-- The variables. -/
  bindings : ∀ bindings, given.bindings = some bindings →
    Table.Distinct bindings ∧
      ∃ limit, depth = limit + 1 ∧ ∀ entry ∈ bindings, entry.2.DistinctKeys ∧ entry.2.depth ≤ limit

theorem readable_start (depth : Nat) : ({} : Given).Readable depth where
  screens _ same := by cases same
  bindings _ same := by cases same

theorem keeps_readable : shape.Keeps Given.Readable where
  fill field member depth given readable := by
    rcases List.mem_cons.mp member with rfl | member
    · exact Yields.slot fun _ _ _ _ => ⟨readable.screens, readable.bindings⟩
    rcases List.mem_cons.mp member with rfl | member
    · refine Yields.slot fun text screens rest taken => ⟨?_, readable.bindings⟩
      rintro _ ⟨⟩
      exact Yields.listOf Screen.yields_readable depth text screens rest taken
    · obtain rfl := List.mem_singleton.mp member
      refine Yields.slot fun text bindings rest taken => ⟨readable.screens, ?_⟩
      rintro _ ⟨⟩
      exact Yields.tableOf Node.yields_reader depth text bindings rest taken
  other _ _ _ _ readable := Yields.mapValue fun _ _ _ _ => readable

/-- An app that is made of what is given is readable. -/
theorem Given.Readable.app
    {depth : Nat}
    {given : Given}
    (readable : given.Readable (depth + 1))
    (mainScreen : String) :
    (⟨mainScreen, given.screens.getD [], given.bindings.getD []⟩ : App).Readable depth := by
  obtain ⟨screensReadable, bindingsReadable⟩ := readable
  refine ⟨?_, ?_, ?_⟩
  · cases found : given.screens with
    | none => exact fun _ member => by cases member
    | some screens =>
        obtain ⟨limit, same, each⟩ := screensReadable screens found
        obtain rfl := Nat.succ.inj same
        exact each
  · cases found : given.bindings with
    | none => exact List.nodup_nil
    | some bindings => exact (bindingsReadable bindings found).1
  · cases found : given.bindings with
    | none => exact fun _ member => by cases member
    | some bindings =>
        obtain ⟨-, limit, same, each⟩ := bindingsReadable bindings found
        obtain rfl := Nat.succ.inj same
        exact each

/-- What holds of every app that is read from a whole text. -/
theorem readable_of_parse
    {text : String}
    {app : App}
    (parsed : parse text = .ok app) :
    app.Readable 125 := by
  unfold parse Json.whole at parsed
  split at parsed
  · next read rest taken =>
      obtain ⟨depth, given, isLimit, readable, made⟩ :=
        keeps_readable.read readable_start _ _ _ _ _ taken
      obtain rfl : depth = 126 := by simpa [depthLimit] using isLimit.symm
      obtain ⟨mainScreen, -, rfl⟩ := Option.map_eq_some_iff.mp made
      split at parsed
      · obtain rfl := Except.ok.inj parsed
        exact readable.app mainScreen
      · cases parsed
  · cases parsed

end App

/-! ## What is written and read -/

namespace Node

/-- The entries with each number replaced. -/
def plainEntries (entries : List (String × Node)) : List (String × Node) :=
  entries.map fun entry => (entry.1, entry.2.mapNumbers plainNumber)

end Node

namespace Screen

/-- A screen as it is read again, with whole numbers plain. -/
def plain (screen : Screen) : Screen where
  id := screen.id
  onAppear := screen.onAppear.map (Node.mapNumbers Node.plainNumber)
  body := Node.plainEntries screen.body

theorem wholeNumbers_of_toNode
    {screen : Screen}
    (whole : screen.toNode.WholeNumbers) :
    (∀ event, screen.onAppear = some event → event.WholeNumbers) ∧
      ∀ entry ∈ screen.body, entry.2.WholeNumbers := by
  obtain ⟨-, each⟩ := Node.all_mapping_iff.mp whole
  refine ⟨fun event same => each ("onAppear", event) ?_, fun entry member => each entry ?_⟩
  · simp [same]
  · exact List.mem_append_right _ member

/-- What a screen is said to have beside its fields is read entry by entry. -/
theorem fills_body
    {layout : Layout}
    {depth : Nat}
    {body : List (String × Node)}
    (whole : ∀ entry ∈ body, entry.2.WholeNumbers)
    (others : ∀ entry ∈ body, (entry.1 ≠ "id" ∧ entry.1 ≠ "onAppear") ∧
      entry.2.DistinctKeys ∧ entry.2.depth ≤ depth)
    (given : Given) :
    shape.Fills layout depth given body
      { given with body := given.body ++ Node.plainEntries body } := by
  induction body generalizing given with
  | nil =>
      rw [Node.plainEntries, List.map_nil, List.append_nil]
      exact .nil given
  | cons entry rest inductionHypothesis =>
      obtain ⟨name, node⟩ := entry
      obtain ⟨wholeNode, wholeRest⟩ := List.forall_mem_cons.mp whole
      obtain ⟨⟨⟨notId, notEvent⟩, distinct, shallow⟩, othersRest⟩ := List.forall_mem_cons.mp others
      have absent : (shape.fields.find? fun field => field.name == name) = none := by
        simp [shape, Field.slot, Ne.symm notId, Ne.symm notEvent]
      have accepted : shape.Accepts layout depth given (name, node)
          { given with body := given.body ++ [(name, node.mapNumbers Node.plainNumber)] } :=
        Shape.accepts_other absent ((takes_node wholeNode distinct shallow).mapValue _)
      have later := inductionHypothesis wholeRest othersRest
        { given with body := given.body ++ [(name, node.mapNumbers Node.plainNumber)] }
      rw [List.append_assoc] at later
      exact .cons accepted later

/-- A screen that can be read is read again where it was written. -/
theorem takes_reader
    {layout : Layout}
    {depth : Nat}
    {screen : Screen}
    (readable : screen.Readable (depth + 1))
    (whole : screen.toNode.WholeNumbers) :
    Takes layout (reader (depth + 1)) screen.toNode screen.plain := by
  obtain ⟨id, onAppear, body⟩ := screen
  obtain ⟨wholeEvent, wholeBody⟩ := wholeNumbers_of_toNode whole
  have others : ∀ entry ∈ body, (entry.1 ≠ "id" ∧ entry.1 ≠ "onAppear") ∧
      entry.2.DistinctKeys ∧ entry.2.depth ≤ depth := fun entry member =>
    (readable.others entry member).imp_right fun ⟨distinct, shallow⟩ =>
      ⟨distinct, Nat.le_of_lt_succ shallow⟩
  have distinct : Table.ofEntries (Node.plainEntries body) = Node.plainEntries body :=
    Table.ofEntries_of_distinct (readable.distinct.map _)
  have isId : (shape.fields.find? fun field => field.name == "id") =
      some (.slot "id" Given.id (fun given value => { given with id := some value })
        fun _ => Json.text) := rfl
  have named : shape.Accepts layout depth {} ("id", .string id) { id := some id } :=
    Shape.accepts_slot isId rfl (takes_text id)
  cases onAppear with
  | none =>
      refine Shape.takes_read (.cons named (fills_body wholeBody others { id := some id })) ?_
      simp [plain, distinct]
  | some event =>
      obtain ⟨present, distinctEvent, shallow⟩ := readable.event event rfl
      have taken : Takes layout (Json.optional (Node.reader depth)) event
          (some (event.mapNumbers Node.plainNumber)) :=
        (takes_node (wholeEvent event rfl) distinctEvent (Nat.le_of_lt_succ shallow)).optional
          (wholeEvent event rfl) present
      have isEvent : (shape.fields.find? fun field => field.name == "onAppear") =
          some (.slot "onAppear" Given.onAppear
            (fun given value => { given with onAppear := some value })
            fun depth => Json.optional (Node.reader depth)) := rfl
      have appears : shape.Accepts layout depth { id := some id } ("onAppear", event)
          { id := some id, onAppear := some (some (event.mapNumbers Node.plainNumber)) } :=
        Shape.accepts_slot isEvent rfl taken
      refine Shape.takes_read (.cons named (.cons appears (fills_body wholeBody others _))) ?_
      simp [plain, distinct]

end Screen

namespace App

/-- An app as it is read again, with whole numbers plain. -/
def plain (app : App) : App where
  mainScreen := app.mainScreen
  screens := app.screens.map Screen.plain
  bindings := Node.plainEntries app.bindings

theorem wholeNumbers_of_toNode
    {app : App}
    (whole : app.toNode.WholeNumbers) :
    (∀ screen ∈ app.screens, screen.toNode.WholeNumbers) ∧
      (Node.mapping app.bindings).WholeNumbers := by
  obtain ⟨-, each⟩ := Node.all_mapping_iff.mp whole
  have wholeScreens := each ("screens", .sequence (app.screens.map Screen.toNode)) (by simp)
  have wholeBindings := each ("initialContextVariables", .mapping app.bindings) (by simp)
  obtain ⟨-, eachScreen⟩ := Node.all_sequence_iff.mp wholeScreens
  exact ⟨fun screen member => eachScreen _ (List.mem_map_of_mem member), wholeBindings⟩

/-- An app that can be read is read again where it was written. -/
theorem takes_reader
    {layout : Layout}
    {depth : Nat}
    {app : App}
    (readable : app.Readable (depth + 1))
    (whole : app.toNode.WholeNumbers) :
    Takes layout (reader (depth + 3)) app.toNode app.plain := by
  obtain ⟨mainScreen, screens, bindings⟩ := app
  obtain ⟨wholeScreens, wholeBindings⟩ := wholeNumbers_of_toNode whole
  have isMain : (shape.fields.find? fun field => field.name == "mainScreenId") =
      some (.slot "mainScreenId" Given.mainScreen
        (fun given value => { given with mainScreen := some value }) fun _ => Json.text) := rfl
  have isScreens : (shape.fields.find? fun field => field.name == "screens") =
      some (.slot "screens" Given.screens
        (fun given value => { given with screens := some value })
        (Json.listOf Screen.reader)) := rfl
  have isBindings : (shape.fields.find? fun field => field.name == "initialContextVariables") =
      some (.slot "initialContextVariables" Given.bindings
        (fun given value => { given with bindings := some value })
        (Json.tableOf Node.reader)) := rfl
  have takesScreens : Takes layout (Json.listOf Screen.reader (depth + 2))
      (.sequence (screens.map Screen.toNode)) (screens.map Screen.plain) := by
    refine takes_listOf ?_ ?_
    · intro node member
      obtain ⟨screen, isScreen, rfl⟩ := List.mem_map.mp member
      exact wholeScreens screen isScreen
    · rw [List.forall₂_map_left_iff, List.forall₂_map_right_iff, List.forall₂_same]
      exact fun screen member =>
        Screen.takes_reader (readable.screens screen member) (wholeScreens screen member)
  have distinct : (Node.mapping bindings).DistinctKeys := Node.all_mapping_iff.mpr
    ⟨readable.distinct, fun entry member => (readable.values entry member).1⟩
  have shallow : (Node.mapping bindings).depth ≤ depth + 2 := by
    rw [Node.depth]
    exact Nat.succ_le_succ (Node.depthEntries_le_iff.mpr fun entry member =>
      (readable.values entry member).2)
  have takesBindings : Takes layout (Json.tableOf Node.reader (depth + 2)) (.mapping bindings)
      (Node.plainEntries bindings) := takes_tableOf wholeBindings distinct shallow
  refine Shape.takes_read (.cons (Shape.accepts_slot isMain rfl (takes_text mainScreen))
    (.cons (Shape.accepts_slot isScreens rfl takesScreens)
      (.cons (Shape.accepts_slot isBindings rfl takesBindings) (.nil _)))) ?_
  rfl

end App

/-! ## What is the same -/

/-- A node that equals another and has every key in its place. -/
def Node.Repeats (first second : Node) : Prop :=
  Node.same first second = true ∧ second.keyOrders = first.keyOrders

/-- Entries with the same keys in the same order, and values that repeat each other. -/
def Node.RepeatsEntries (entries others : List (String × Node)) : Prop :=
  List.Forall₂ (fun entry other => other.1 = entry.1 ∧ entry.2.Repeats other.2) entries others

/-- A screen with the same name, event and body as another. -/
structure Screen.Repeats (screen other : Screen) : Prop where
  /-- The name. -/
  id : other.id = screen.id
  /-- The event, if there is one. -/
  onAppear : Option.Rel Node.Repeats screen.onAppear other.onAppear
  /-- Everything else, in order. -/
  body : Node.RepeatsEntries screen.body other.body

/-- An app with the same main screen, the same screens in the same order, and the same variables in
the same order as another. -/
structure App.Repeats (app other : App) : Prop where
  /-- The main screen. -/
  mainScreen : other.mainScreen = app.mainScreen
  /-- The screens, in order. -/
  screens : List.Forall₂ Screen.Repeats app.screens other.screens
  /-- The variables, in order. -/
  bindings : Node.RepeatsEntries app.bindings other.bindings

theorem Node.repeats_plain
    {node : Node}
    (whole : node.WholeNumbers)
    (distinct : node.DistinctKeys) :
    node.Repeats (node.mapNumbers plainNumber) :=
  ⟨same_mapNumbers_plainNumber whole distinct, keyOrders_mapNumbers node⟩

theorem Node.repeats_plainEntries
    {entries : List (String × Node)}
    (whole : ∀ entry ∈ entries, entry.2.WholeNumbers)
    (distinct : ∀ entry ∈ entries, entry.2.DistinctKeys) :
    RepeatsEntries entries (plainEntries entries) := by
  rw [RepeatsEntries, plainEntries, List.forall₂_map_right_iff, List.forall₂_same]
  exact fun entry member => ⟨rfl, repeats_plain (whole entry member) (distinct entry member)⟩

theorem Screen.Readable.repeats_plain
    {limit : Nat}
    {screen : Screen}
    (readable : screen.Readable limit)
    (whole : screen.toNode.WholeNumbers) :
    screen.Repeats screen.plain := by
  obtain ⟨wholeEvent, wholeBody⟩ := wholeNumbers_of_toNode whole
  refine ⟨rfl, ?_, Node.repeats_plainEntries wholeBody fun entry member =>
    (readable.others entry member).2.1⟩
  unfold Screen.plain
  cases appears : screen.onAppear with
  | none => exact .none
  | some event =>
      exact .some (Node.repeats_plain (wholeEvent event appears)
        (readable.event event appears).2.1)

theorem App.Readable.repeats_plain
    {limit : Nat}
    {app : App}
    (readable : app.Readable limit)
    (whole : app.toNode.WholeNumbers) :
    app.Repeats app.plain := by
  obtain ⟨wholeScreens, wholeBindings⟩ := wholeNumbers_of_toNode whole
  obtain ⟨-, wholeValues⟩ := Node.all_mapping_iff.mp wholeBindings
  refine ⟨rfl, ?_, Node.repeats_plainEntries wholeValues fun entry member =>
    (readable.values entry member).1⟩
  rw [App.plain, List.forall₂_map_right_iff, List.forall₂_same]
  exact fun screen member =>
    (readable.screens screen member).repeats_plain (wholeScreens screen member)

namespace App

/-- An app that was read and in which every number equals a whole number within `2 ^ 53` is read
again where it is written, as compact text or indented, and comes out the same: its screens and
variables in their order, with equal values and every key in its place. -/
theorem parse_repeats
    {text : String}
    {app : App}
    (parsed : parse text = .ok app)
    (integers : ∀ part ∈ app.toNode.parts, ∀ value, part = .number value →
      ∃ whole : Int, whole.natAbs ≤ 2 ^ 53 ∧ (value == Decimal.ofInteger whole) = true) :
    ∃ again, (∀ written ∈ [app.toNode.render, app.toNode.renderPretty],
      parse written = .ok again) ∧ app.Repeats again := by
  have whole := Node.wholeNumbers_iff.mpr integers
  have readable := readable_of_parse parsed
  refine ⟨app.plain, fun written member => ?_, readable.repeats_plain whole⟩
  obtain ⟨layout, laidOut⟩ : ∃ layout, written.toList = app.toNode.laid layout 0 := by
    simp only [List.mem_cons, List.not_mem_nil, or_false] at member
    rcases member with rfl | rfl
    · exact ⟨.compact, by rw [Node.render, String.toList_ofList, Node.compact_eq_laid]⟩
    · exact ⟨.indented, by rw [Node.renderPretty, String.toList_ofList, Node.indented_eq_laid]⟩
  have taken : reader depthLimit ([] ++ (app.toNode.laid layout 0 ++ [])) = .ok (app.plain, []) :=
    takes_reader readable whole [] (fun _ member => by cases member) 0 [] endsNumber_nil
  rw [List.nil_append, List.append_nil] at taken
  rw [parse, laidOut, Json.whole, taken]
  rfl

/-- Fields stand in another order, one is passed over, one is missing, and an event is `null`. -/
theorem parse_repeats_of_home :
    let text := "\x7b\"theme\":1.5,\"screens\":[\x7b\"title\":\x7b\"b\":1,\"a\":-0\x7d," ++
      "\"onAppear\":null,\"id\":\"home\"\x7d],\"mainScreenId\":\"home\"\x7d"
    let written := "\x7b\"mainScreenId\":\"home\",\"screens\":[\x7b\"id\":\"home\"," ++
      "\"title\":\x7b\"b\":1,\"a\":0\x7d\x7d],\"initialContextVariables\":\x7b\x7d\x7d"
    ∃ app again, parse text = .ok app ∧
      (∀ part ∈ app.toNode.parts, ∀ value, part = .number value →
        ∃ whole : Int, whole.natAbs ≤ 2 ^ 53 ∧ (value == Decimal.ofInteger whole) = true) ∧
      parse written = .ok again ∧ app.Repeats again := by
  intro text written
  have observed : (parse text).toOption.map
      (fun app => (decide app.toNode.WholeNumbers, app.toNode.render)) = some (true, written) := by
    decide +kernel
  obtain ⟨app, parsed, same⟩ := Option.map_eq_some_iff.mp observed
  obtain ⟨whole, rendered⟩ := Prod.mk.inj same
  have integers := Node.wholeNumbers_iff.mp (of_decide_eq_true whole)
  have read : parse text = .ok app := by
    cases outcome : parse text with
    | error failure => simp [outcome, Except.toOption] at parsed
    | ok other => simpa [outcome, Except.toOption] using parsed
  obtain ⟨again, back, repeats⟩ := parse_repeats read integers
  exact ⟨app, again, read, integers, back written (rendered ▸ List.mem_cons_self), repeats⟩

end App
end Storyboard
