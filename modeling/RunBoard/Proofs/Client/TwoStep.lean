import RunBoard.Proofs.Client.Bearer
import RunBoard.Proofs.Url.Ending
import RunBoard.View.Standard

/-!
# Loads of two requests

Some content takes two requests: what else there is to ask for is known from the first answer,
and the content is made of both. Such a load has all of its content or none. The second request
is sent when the first answer could be read and asks for one, unless the load is cancelled by
then, and the outcome is the first error that there is, or what both answers make.
-/

namespace RunBoard

open Command (Scene)

/-- What is to be done with a first answer. -/
inductive Next (β γ : Type) where
  | done (content : γ)
  /-- Asks for one more path; its answer is all that is missing. -/
  | ask (path : String) (combine : β → γ)

/-- A load of at most two requests. -/
structure TwoStep (α β γ : Type) where
  path : String
  first : Wire.Schema α
  next : α → Next β γ
  second : Wire.Schema β

/-! ## Asking for a path -/

namespace Client

/-- The request that goes out for a path. A path that stands for no URL is not asked for. -/
def asked (client : Client (StateM Scene)) (path : String) (files : Files.Tree) :
    List Http.Request :=
  match client.prepare path .get with
  | .ok (url, headers) => [client.requestTo .get url headers files]
  | .error _ => []

/-- The scene when a path has been asked for. -/
def ask (client : Client (StateM Scene)) (path : String) (scene : Scene) : Scene :=
  { scene with sent := scene.sent ++ client.asked path scene.files }

/-- What the gateway has at a path, as it is read, or why nothing is read. -/
def answer {α : Type} (client : Client (StateM Scene))
    (gateway : List Http.Request → Http.Request → Http.Exchange) (schema : Wire.Schema α)
    (path : String) (scene : Scene) : Except ClientError α :=
  match client.prepare path .get with
  | .ok (url, headers) =>
      (Payload.ofExchange false
        (gateway scene.sent (client.requestTo .get url headers scene.files))).bind
          (Payload.decode schema)
  | .error error => .error error

variable {gateway : List Http.Request → Http.Request → Http.Exchange}
  {client : Client (StateM Scene)} {α : Type}

theorem length_asked_le (path : String) (files : Files.Tree) :
    (client.asked path files).length ≤ 1 := by
  unfold asked
  split <;> simp

theorem isCancelled_getJson (schema : Wire.Schema α) (path : String) :
    (client.getJson schema path).isCancelled = false :=
  client.isCancelled_request path .get

theorem answer_of_alike {one other : Scene} (alike : one.Alike other) (schema : Wire.Schema α)
    (path : String) :
    client.answer gateway schema path one = client.answer gateway schema path other := by
  rw [answer, alike.sent, alike.files]
  rfl

/-- Asking for a path takes two looks at the flag, one when the answer comes and one when it is
read. -/
theorem settles_getJson (host : client.host = Scene.host gateway) (flag : Flag)
    (schema : Wire.Schema α) (path : String) (scene : Scene) :
    Pending.Settles flag 2 (Pending.awaitFrom flag.look (client.getJson schema path) scene)
      (client.answer gateway schema path scene) (client.ask path scene) := by
  cases prepared : client.prepare path .get with
  | error error =>
    have settles := (Pending.settles_ready flag (.error error) scene).thenCompute
      (Payload.decode schema)
    have failed : client.request path .get = .ready (.error error) := by
      rw [request, prepared]
    simp only [getJson, decoded, failed, answer, ask, asked, prepared, List.append_nil]
    exact settles
  | ok target =>
    obtain ⟨url, headers⟩ := target
    have settles := (settles_ask host flag scene prepared).thenCompute (Payload.decode schema)
    simp only [getJson, decoded, answer, ask, asked, prepared]
    exact settles

/-- Whether one request goes out for a path, to the URL that the path stands for. -/
def AsksOnce (client : Client (StateM Scene)) (path : String) (files : Files.Tree) : Prop :=
  ∃ request, client.asked path files = [request] ∧ request.method = "GET" ∧
    client.base.resolve path = .ok request.url

/-- Below a base with a hierarchy every path of the gateway stands for a URL. -/
theorem exists_prepare (under : client.base.url.path.isFlat = false) (rest : String) :
    ∃ url, client.base.resolve (Endpoint.base ++ rest) = .ok url ∧
      client.prepare (Endpoint.base ++ rest) .get = .ok (url, RequestOptions.standardHeaders) := by
  have written : (Endpoint.base ++ rest).toList =
      '/' :: 'a' :: 'p' :: 'i' :: '/' :: ([] ++ ("v1".toList ++ rest.toList)) :=
    String.toList_append
  obtain ⟨_, _, resolved⟩ := BaseUrl.exists_resolve written (by simp) under
  refine ⟨_, resolved, ?_⟩
  rw [prepare, resolved, RequestOptions.legalHeaders_get]
  rfl

theorem asksOnce (under : client.base.url.path.isFlat = false) (rest : String)
    (files : Files.Tree) : client.AsksOnce (Endpoint.base ++ rest) files := by
  obtain ⟨url, resolved, prepared⟩ := exists_prepare under rest
  refine ⟨client.requestTo .get url RequestOptions.standardHeaders files, ?_, rfl, resolved⟩
  rw [asked, prepared]

end Client

/-! ## The second step -/

namespace Next

variable {β γ : Type}

def path? : Next β γ → Option String
  | done _ => none
  | ask path _ => some path

/-- What comes of a next step in a scene. -/
def outcome (next : Next β γ) (client : Client (StateM Scene))
    (gateway : List Http.Request → Http.Request → Http.Exchange) (schema : Wire.Schema β)
    (scene : Scene) : Except ClientError γ :=
  match next with
  | done content => .ok content
  | ask path combine => (client.answer gateway schema path scene).map combine

/-- The scene when a next step has been taken. -/
def after (next : Next β γ) (client : Client (StateM Scene)) (scene : Scene) : Scene :=
  next.path?.elim scene fun path => client.ask path scene

theorem sent_after (next : Next β γ) (client : Client (StateM Scene)) (scene : Scene) :
    (next.after client scene).sent =
      scene.sent ++ next.path?.elim [] fun path => client.asked path scene.files := by
  cases next with
  | done content => exact (List.append_nil _).symm
  | ask path combine => rfl

theorem outcome_of_alike {client : Client (StateM Scene)}
    {gateway : List Http.Request → Http.Request → Http.Exchange} {one other : Scene}
    (alike : one.Alike other) (next : Next β γ) (schema : Wire.Schema β) :
    next.outcome client gateway schema one = next.outcome client gateway schema other := by
  cases next with
  | done content => rfl
  | ask path combine => rw [outcome, outcome, Client.answer_of_alike alike]

end Next

namespace TwoStep

variable {α β γ : Type}

/-- The path that is asked for after the first answer: the one that the answer leads to, if it
could be read, unless one of three looks finds the flag set. -/
def furtherPath? (load : TwoStep α β γ) (client : Client (StateM Scene))
    (gateway : List Http.Request → Http.Request → Http.Exchange) (flag : Flag) (scene : Scene) :
    Option String :=
  match client.answer gateway load.first load.path scene with
  | .error _ => none
  | .ok value =>
      if (flag.watch 3 (client.ask load.path scene)).1 then none else (load.next value).path?

/-- Whether the flag is found set when an answer comes or is made use of. Behind a first answer
that fails there are two looks, behind any other a third one and, once the second step has been
taken, a last one. -/
def isWithdrawn (load : TwoStep α β γ) (client : Client (StateM Scene))
    (gateway : List Http.Request → Http.Request → Http.Exchange) (flag : Flag) (scene : Scene) :
    Bool :=
  let answered := client.ask load.path scene
  match client.answer gateway load.first load.path scene with
  | .error _ => (flag.watch 2 answered).1
  | .ok value =>
      let seen := flag.watch 3 answered
      seen.1 || (flag.look ((load.next value).after client seen.2)).1

/-- How a load goes in a scene: what is sent, when it is cancelled, and what else it comes to. -/
structure Course (load : TwoStep α β γ) (client : Client (StateM Scene))
    (gateway : List Http.Request → Http.Request → Http.Exchange) (flag : Flag) (scene : Scene)
    (came : Option (Except ClientError γ) × Scene) : Prop where
  sent : came.2.sent = scene.sent ++ client.asked load.path scene.files ++
    (load.furtherPath? client gateway flag scene).elim [] (client.asked · scene.files)
  cancelled : came.1 = none ↔ load.isWithdrawn client gateway flag scene = true
  outcome : ∀ outcome, came.1 = some outcome →
    outcome = (client.answer gateway load.first load.path scene).bind fun value =>
      (load.next value).outcome client gateway load.second (client.ask load.path scene)

/-- Whether a load comes to nothing, to the first error that there is or to what the answers make,
with two requests at most, and with one for each path that is asked for. -/
structure AllOrNothing (load : TwoStep α β γ) (client : Client (StateM Scene))
    (gateway : List Http.Request → Http.Request → Http.Exchange) (flag : Flag) (scene : Scene)
    (came : Option (Except ClientError γ) × Scene) : Prop
    extends Course load client gateway flag scene came where
  few : came.2.sent.length ≤ scene.sent.length + 2
  once : client.base.url.path.isFlat = false → client.AsksOnce load.path scene.files ∧
    ∀ path ∈ load.furtherPath? client gateway flag scene, client.AsksOnce path scene.files

variable {gateway : List Http.Request → Http.Request → Http.Exchange}
  {client : Client (StateM Scene)} {flag : Flag} {scene : Scene}

/-- Whether a load asks for nothing but paths of the gateway. -/
def IsOfGateway (load : TwoStep α β γ) : Prop :=
  (∃ rest, load.path = Endpoint.base ++ rest) ∧
    ∀ value, ∀ path ∈ (load.next value).path?, ∃ rest, path = Endpoint.base ++ rest

theorem exists_of_furtherPath? {load : TwoStep α β γ} {path : String}
    (further : load.furtherPath? client gateway flag scene = some path) :
    ∃ value, (load.next value).path? = some path := by
  unfold furtherPath? at further
  split at further
  · cases further
  · next value _ =>
    split at further
    · cases further
    · exact ⟨value, further⟩

theorem asksOnce {load : TwoStep α β γ} (known : load.IsOfGateway)
    (under : client.base.url.path.isFlat = false) :
    client.AsksOnce load.path scene.files ∧
      ∀ path ∈ load.furtherPath? client gateway flag scene, client.AsksOnce path scene.files := by
  obtain ⟨⟨rest, first⟩, next⟩ := known
  refine ⟨first ▸ Client.asksOnce under rest scene.files, ?_⟩
  intro path further
  obtain ⟨value, leads⟩ := exists_of_furtherPath? further
  obtain ⟨rest, rfl⟩ := next value path leads
  exact Client.asksOnce under rest scene.files

/-- Whether a chain does what a first answer leads to. -/
def Follows (load : TwoStep α β γ) (client : Client (StateM Scene))
    (gateway : List Http.Request → Http.Request → Http.Exchange)
    (rest : α → Pending (StateM Scene) ClientError γ) : Prop :=
  ∀ value, (rest value).isCancelled = false ∧ ∃ looks, ∀ scene,
    Pending.Settles .unset looks (Pending.awaitFrom Flag.unset.look (rest value) scene)
      ((load.next value).outcome client gateway load.second scene)
      ((load.next value).after client scene)

section Courses

variable {load : TwoStep α β γ} {source : Pending (StateM Scene) ClientError α}
  {rest : α → Pending (StateM Scene) ClientError γ}
  (settles : Pending.Settles flag 2 (Pending.awaitFrom flag.look source scene)
    (client.answer gateway load.first load.path scene) (client.ask load.path scene))

include settles

/-- A first answer that cannot be read is all that there is. -/
theorem course_of_error {error : ClientError}
    (answered : client.answer gateway load.first load.path scene = .error error) :
    load.Course client gateway flag scene
      (Pending.awaitFrom flag.look (source.andThen rest) scene) := by
  have failed := settles.andThen_error answered rest
  have sent := failed.alike.sent
  rw [Pending.Settles] at failed
  refine ⟨?_, ?_, ?_⟩
  · rw [sent, furtherPath?, answered]
    exact (List.append_nil _).symm
  · rw [failed, isWithdrawn, answered]
    simp
  · rw [failed, answered]
    intro outcome settled
    split at settled
    · cases settled
    · exact (Option.some.inj settled).symm

/-- Behind a first answer that can be read the flag is looked at before and after the second step. -/
theorem course_of_ok {value : α}
    (answered : client.answer gateway load.first load.path scene = .ok value)
    (follows : load.Follows client gateway rest) :
    load.Course client gateway flag scene
      (Pending.awaitFrom flag.look (source.andThen rest) scene) := by
  obtain ⟨free, looks, follows⟩ := follows value
  -- The second step is taken in the scene that the third look leaves behind. It may have been
  -- touched by the looks, but files and requests are what the first answer has left.
  have came := settles.andThen_ok answered rest free (follows _)
  have alike := flag.alike_watch 3 (client.ask load.path scene)
  cases watched : flag.watch 3 (client.ask load.path scene) with
  | mk set seen =>
    rw [watched] at came alike
    cases set with
    | true =>
      replace came : _ = (none, seen) := came
      rw [came]
      refine ⟨?_, ?_, fun _ settled => nomatch settled⟩
      · rw [alike.sent, furtherPath?, answered, watched]
        exact (List.append_nil _).symm
      · simp [isWithdrawn, answered, watched]
    | false =>
      replace came : _ = Pending.unlessSet flag.look _ _ := came
      have last := Pending.settles_unlessSet flag
        ((load.next value).outcome client gateway load.second seen)
        ((load.next value).after client seen)
      have quiet := last.alike.sent
      rw [Pending.Settles] at last
      rw [came]
      refine ⟨?_, ?_, ?_⟩
      · rw [quiet, Next.sent_after, alike.sent, alike.files, furtherPath?, answered, watched]
        rfl
      · rw [last, isWithdrawn, answered, watched]
        simp [Flag.watch]
      · rw [last, answered]
        intro outcome settled
        split at settled
        · cases settled
        · rw [← Option.some.inj settled]
          exact Next.outcome_of_alike alike (load.next value) load.second

end Courses

/-- A chain that does what the first answer leads to has all of the content or none. -/
theorem allOrNothing (host : client.host = Scene.host gateway) {load : TwoStep α β γ}
    (known : load.IsOfGateway) {rest : α → Pending (StateM Scene) ClientError γ}
    (follows : load.Follows client gateway rest) (flag : Flag) (scene : Scene) :
    load.AllOrNothing client gateway flag scene
      (((client.getJson load.first load.path).andThen rest).awaitUnless flag.look scene) := by
  have settles := Client.settles_getJson host flag load.first load.path scene
  have free : ((client.getJson load.first load.path).andThen rest).isCancelled = false :=
    Client.isCancelled_getJson load.first load.path
  have course : load.Course client gateway flag scene
      (Pending.awaitFrom flag.look ((client.getJson load.first load.path).andThen rest) scene) := by
    cases answered : client.answer gateway load.first load.path scene with
    | error error => exact course_of_error settles answered
    | ok value => exact course_of_ok settles answered follows
  have few : ((load.furtherPath? client gateway flag scene).elim []
      (client.asked · scene.files)).length ≤ 1 := by
    cases load.furtherPath? client gateway flag scene with
    | none => exact Nat.zero_le 1
    | some path => exact Client.length_asked_le path scene.files
  rw [Pending.awaitUnless_of_free free]
  refine ⟨course, ?_, asksOnce known⟩
  have first : (client.asked load.path scene.files).length ≤ 1 :=
    Client.length_asked_le load.path scene.files
  rw [course.sent, List.length_append, List.length_append]
  omega

/-! ## The loads of the gateway -/

def runDetail (id : String) : TwoStep Run Run RunDetail where
  path := Endpoint.run id
  first := Wire.run
  next run :=
    match run.parent with
    | some parent => .ask (Endpoint.run parent) fun parent => ⟨run, some parent⟩
    | none => .done ⟨run, none⟩
  second := Wire.run

def workflow (key : View.WorkflowKey) : TwoStep Workflow RunList View.WorkflowContent where
  path := Endpoint.workflow key.id key.version
  first := Wire.workflow
  next workflow := .ask (Endpoint.workflowRuns key.id) fun list => ⟨workflow, list.results⟩
  second := Wire.runList

def nodeOutputs (key : View.NodeKey) : TwoStep (List Artifact) (List Metric) View.NodeOutputs where
  path := Endpoint.artifacts key.run key.node
  first := .list Wire.artifact
  next artifacts := .ask (Endpoint.metrics key.run key.node) fun metrics => ⟨artifacts, metrics⟩
  second := .list Wire.metric

theorem exists_run (id : String) : ∃ rest, Endpoint.run id = Endpoint.base ++ rest := by
  refine ⟨"/run/" ++ Text.Percent.encodeComponent id, ?_⟩
  simp [Endpoint.run, toString, String.append_assoc]

theorem isOfGateway_runDetail (id : String) : (runDetail id).IsOfGateway := by
  refine ⟨exists_run id, fun run path leads => ?_⟩
  cases named : run.parent with
  | none => simp [runDetail, named, Next.path?] at leads
  | some parent =>
    simp only [runDetail, named, Next.path?, Option.mem_some_iff] at leads
    exact leads ▸ exists_run parent

theorem isOfGateway_workflow (key : View.WorkflowKey) : (workflow key).IsOfGateway := by
  obtain ⟨id, version⟩ := key
  refine ⟨?_, fun _ path leads => ?_⟩
  · cases version <;>
      exact ⟨_, by
        simp only [workflow, Endpoint.workflow, toString, String.append_assoc]
        rfl⟩
  · obtain rfl := Option.some.inj leads
    exact ⟨_, by
      simp only [Endpoint.workflowRuns, toString, String.append_assoc]
      rfl⟩

theorem isOfGateway_nodeOutputs (key : View.NodeKey) : (nodeOutputs key).IsOfGateway := by
  obtain ⟨rest, run⟩ := exists_run key.run
  refine ⟨?_, fun _ path leads => ?_⟩
  · exact ⟨_, by
      simp only [nodeOutputs, Endpoint.artifacts, run, toString, String.append_assoc]
      rfl⟩
  · obtain rfl := Option.some.inj leads
    exact ⟨_, by
      simp only [Endpoint.metrics, run, toString, String.append_assoc]
      rfl⟩

section Loads

variable (host : client.host = Scene.host gateway)

include host

theorem runDetail_follows (id : String) :
    (runDetail id).Follows client gateway client.withParent := by
  intro run
  cases named : run.parent with
  | none =>
    simp only [Client.withParent, runDetail, named]
    exact ⟨rfl, 1, Pending.settles_ready .unset _⟩
  | some parent =>
    simp only [Client.withParent, runDetail, named]
    refine ⟨?_, 3, fun scene => ?_⟩
    · rw [Pending.isCancelled_map, Client.getRun, Client.isCancelled_getJson]
    · have settles := (Client.settles_getJson host .unset Wire.run (Endpoint.run parent) scene).map
        fun parent => RunDetail.mk run (some parent)
      exact settles

theorem workflow_follows (key : View.WorkflowKey) :
    (workflow key).Follows client gateway fun workflow =>
      (client.workflowRuns key.id).map fun runs => ⟨workflow, runs⟩ := by
  intro workflow
  refine ⟨?_, 4, fun scene => ?_⟩
  · rw [Pending.isCancelled_map, Client.workflowRuns, Pending.isCancelled_map,
      Client.isCancelled_getJson]
  have settles := ((Client.settles_getJson host .unset Wire.runList
    (Endpoint.workflowRuns key.id) scene).map RunList.results).map
      fun runs => View.WorkflowContent.mk workflow runs
  have twice (answer : Except ClientError RunList) :
      (answer.map RunList.results).map (View.WorkflowContent.mk workflow) =
        answer.map fun list => ⟨workflow, list.results⟩ := by
    cases answer <;> rfl
  rw [twice] at settles
  exact settles

theorem nodeOutputs_follows (key : View.NodeKey) :
    (nodeOutputs key).Follows client gateway fun artifacts =>
      (client.metrics key.run key.node).map fun metrics => ⟨artifacts, metrics⟩ := by
  intro artifacts
  refine ⟨?_, 3, fun scene => ?_⟩
  · rw [Pending.isCancelled_map, Client.metrics, Client.isCancelled_getJson]
  · have settles := (Client.settles_getJson host .unset (.list Wire.metric)
      (Endpoint.metrics key.run key.node) scene).map fun metrics =>
        View.NodeOutputs.mk artifacts metrics
    exact settles

end Loads

/-- What a run detail is made of. -/
theorem outcome_runDetail {id : String} {detail : RunDetail} {answer : Except ClientError Run}
    {scene : Scene}
    (made : (answer.bind fun run =>
      ((runDetail id).next run).outcome client gateway Wire.run scene) = .ok detail) :
    answer = .ok detail.run ∧ detail.parent.isSome = detail.run.parent.isSome ∧
      ∀ name parent, detail.run.parent = some name → detail.parent = some parent →
        client.answer gateway Wire.run (Endpoint.run name) scene = .ok parent := by
  cases answer with
  | error error => cases made
  | ok run =>
    cases named : run.parent with
    | none =>
      simp only [Except.bind, runDetail, named, Next.outcome, Except.ok.injEq] at made
      subst made
      simp [named]
    | some name =>
      simp only [Except.bind, runDetail, named, Next.outcome] at made
      cases found : client.answer gateway Wire.run (Endpoint.run name) scene with
      | error error =>
        rw [found] at made
        cases made
      | ok parent =>
        rw [found] at made
        cases made
        refine ⟨rfl, by simp [named], fun other parent' same there => ?_⟩
        rw [named] at same
        cases same
        cases there
        exact found

/-- The loads of a run with its parent, of a workflow with its runs and of the outputs of a node
have all of their content or none, whatever the gateway answers and whenever they are cancelled.
The parent of a run is there when the run names one. It is what the gateway has at that name,
and nothing more is asked for on its account. -/
theorem loads_are_all_or_nothing (host : client.host = Scene.host gateway) (flag : Flag)
    (scene : Scene) :
    (∀ id,
      let came := (client.getRunDetail id).awaitUnless flag.look scene
      (runDetail id).AllOrNothing client gateway flag scene came ∧
      ∀ detail, came.1 = some (.ok detail) →
        client.answer gateway Wire.run (Endpoint.run id) scene = .ok detail.run ∧
        detail.parent.isSome = detail.run.parent.isSome ∧
        ∀ name parent, detail.run.parent = some name → detail.parent = some parent →
          client.answer gateway Wire.run (Endpoint.run name)
            (client.ask (Endpoint.run id) scene) = .ok parent) ∧
    (∀ key known, (workflow key).AllOrNothing client gateway flag scene
      (((View.workflow client).fetch key known).awaitUnless flag.look scene)) ∧
    ∀ key known, (nodeOutputs key).AllOrNothing client gateway flag scene
      (((View.nodeOutputs client).fetch key known).awaitUnless flag.look scene) := by
  refine ⟨fun id => ?_, fun key known => ?_, fun key known => ?_⟩
  · intro came
    have loads := allOrNothing host (isOfGateway_runDetail id) (runDetail_follows host id) flag scene
    refine ⟨loads, fun detail complete => ?_⟩
    exact outcome_runDetail (loads.outcome _ complete).symm
  · exact allOrNothing host (isOfGateway_workflow key) (workflow_follows host key) flag scene
  · exact allOrNothing host (isOfGateway_nodeOutputs key) (nodeOutputs_follows host key) flag scene

/-- The answer of a gateway that has nothing but one run, which is its own parent. -/
def cyclicRun : Http.Exchange :=
  .answered ⟨200, Text.Utf8.bytes
    "\x7b\"id\":\"a\",\"parent\":\"a\",\"created_at\":1,\"state\":\x7b\"status\":\"lost\"\x7d\x7d"⟩

theorem exists_cyclicRun :
    ∃ run, (Payload.ofExchange false cyclicRun).bind (Payload.decode Wire.run) = .ok run ∧
      run.id = "a" ∧ run.parent = some "a" := by
  have read : ((Payload.ofExchange false cyclicRun).bind (Payload.decode Wire.run)).toOption.map
      (fun run => (run.id, run.parent)) = some ("a", some "a") := by
    decide +kernel
  cases made : (Payload.ofExchange false cyclicRun).bind (Payload.decode Wire.run) with
  | error error =>
    rw [made] at read
    cases read
  | ok run =>
    rw [made] at read
    exact ⟨run, rfl, Prod.mk.inj (Option.some.inj read)⟩

/-- A run that is its own parent is asked for twice, and not once more. -/
theorem cyclic_run_is_asked_for_twice :
    let came := ((Client.sample fun _ _ => cyclicRun).getRunDetail "a").awaitUnless Flag.unset.look
      (Scene.ofFiles .empty)
    came.2.sent.length = 2 ∧ ∃ detail, came.1 = some (.ok detail) ∧
      detail.run.id = "a" ∧ detail.parent.map Run.id = some "a" := by
  intro came
  let client := Client.sample fun _ _ => cyclicRun
  obtain ⟨run, made, named, parent⟩ := exists_cyclicRun
  have answered (scene : Scene) :
      client.answer (fun _ _ => cyclicRun) Wire.run (Endpoint.run "a") scene = .ok run := by
    obtain ⟨rest, path⟩ := exists_run "a"
    obtain ⟨url, -, prepared⟩ := Client.exists_prepare (rfl : client.base.url.path.isFlat = false) rest
    rw [path, Client.answer, prepared]
    exact made
  have looked (scene : Scene) : Flag.unset.look scene = (false, scene) := rfl
  let start := Scene.ofFiles .empty
  have loads : (runDetail "a").AllOrNothing client (fun _ _ => cyclicRun) .unset start came :=
    ((loads_are_all_or_nothing (rfl : client.host = _) .unset start).1 "a").1
  have further : (runDetail "a").furtherPath? client (fun _ _ => cyclicRun) .unset start =
      some (Endpoint.run "a") := by
    simp [furtherPath?, runDetail, answered, Flag.watch_unset, parent, Next.path?]
  have kept : (runDetail "a").isWithdrawn client (fun _ _ => cyclicRun) .unset start = false := by
    simp [isWithdrawn, runDetail, answered, Flag.watch_unset, looked]
  obtain ⟨⟨first, asked, -⟩, second⟩ := loads.once rfl
  obtain ⟨_, askedAgain, -⟩ := second _ further
  have sent := loads.sent
  clear_value came
  rw [asked, further, Option.elim_some, askedAgain] at sent
  refine ⟨congrArg List.length sent, ⟨run, some run⟩, ?_, named, congrArg some named⟩
  cases settled : came.1 with
  | none => exact absurd (kept.symm.trans (loads.cancelled.1 settled)) Bool.false_ne_true
  | some outcome =>
    rw [loads.outcome outcome settled]
    simp [runDetail, answered, parent, Next.outcome, Except.bind, Except.map]

end TwoStep

end RunBoard
