import BlogOps.ConnectionJobs
import BlogOps.TransitionRuns

/-!
# The publishing system

Requests, worker deliveries and changes from outside as the actions of one
transition system.  An action is one transaction; a request that raises, or a
worker run that raises or does not commit, is rolled back, but what a worker
did to the remote side stays.
-/

namespace BlogOps.Publishing

open Jobs KeyedTables TransitionRuns

variable {ρ : Type} [CanonicalHash]

def rowsOf (rows : JobRows) (tables : Tables) : Rows := { toJobRows := rows, toTables := tables }

variable (w : World ρ)

/-- The session of a run before its first statement. -/
def openSession (rows : JobRows) : Session ρ where
  flushed := rowsOf rows w.tables
  memory := rowsOf rows w.tables
  nextId := w.nextId
  remote := w.remote
  trace := []

def commitSession (s : Session ρ) : World ρ :=
  { w with
    jobs := updateRow (·.job.id) s.memory.job.id (fun _ => s.memory.toJobRows) w.jobs
    tables := s.memory.toTables
    nextId := s.nextId
    remote := s.remote }

/-- A rolled back run keeps its remote effects; its ids are not used again. -/
def rollBack (s : Session ρ) : World ρ := { w with nextId := s.nextId, remote := s.remote }

def runPublishJob (env : WorkerEnv ρ) (rows : JobRows) (w : World ρ) :
    EStateM.Result Exc (Session ρ) RunResult :=
  processPublishJob env w.connections w.policies (openSession w rows)

/-- One delivery of a publish job, with the trace of its run. -/
def deliver (env : WorkerEnv ρ) (jobId : Uuid) (commits : Bool) (w : World ρ) : World ρ × List SagaEvent :=
  match w.jobs.find? (·.job.id = jobId) with
  | none => (w, [])
  | some rows =>
    match runPublishJob env rows w with
    | .ok _ s => (if commits then commitSession w s else rollBack w s, s.trace)
    | .error _ s => (rollBack w s, s.trace)

inductive Action (ρ : Type) where
  | createPolicy (env : RequestEnv) (data : PublicationPolicyCreate)
  | createConnection (env : RequestEnv) (data : PublishingConnectionCreate)
  | createConnectionJob (env : RequestEnv) (connectionId : Uuid)
      (operation : ConnectionOperation) (data : ConnectionCommandCreate)
  | scheduleMonitors (env : RequestEnv) (staleMinutes : Int) (limit : Nat)
  | processConnectionJob (env : ConnectionEnv ρ) (jobId : Uuid) (commits : Bool)
  | createPublishJob (env : RequestEnv) (contentId : Uuid) (data : PublishCreate) (key : String)
  | updatePublishedPost (env : RequestEnv) (postId : Uuid) (data : PublishedPostUpdate)
      (key : String)
  | deletePublishedPost (env : RequestEnv) (postId : Uuid) (data : PublishedPostDelete)
      (key : String)
  | reconcilePublishedPost (env : RequestEnv) (postId : Uuid) (data : ReconcileCreate)
      (key : String)
  | rollbackPublishedPost (env : RequestEnv) (postId : Uuid) (data : RollbackCreate)
      (key : String)
  | cancelPublishJob (env : RequestEnv) (jobId : Uuid) (data : CancelPublishCreate)
  | retryPublishJob (env : RequestEnv) (jobId : Uuid) (data : RetryPublishCreate)
  | processPublishJob (env : WorkerEnv ρ) (jobId : Uuid) (commits : Bool)
  /-- Policy rows are changed past the service. -/
  | tamperPolicies (policies : List PublicationPolicy)
  /-- Somebody else changes the remote side. -/
  | changeRemote (change : ρ → ρ)

/-- A request that raises is rolled back. -/
def request (result : Except Failure (World ρ)) : World ρ × List SagaEvent :=
  match result with
  | .ok w' => (w', [])
  | .error _ => (w, [])

def jobRequest (result : Except Failure (World ρ × SagaEvent)) : World ρ × List SagaEvent :=
  match result with
  | .ok (w', event) => (w', [event])
  | .error _ => (w, [])

def perform : Action ρ → World ρ × List SagaEvent
  | .createPolicy env data => request w (createPolicy env data w)
  | .createConnection env data => request w (createConnection env data w)
  | .createConnectionJob env connectionId operation data =>
    request w ((createConnectionJob env connectionId operation data w).map Prod.fst)
  | .scheduleMonitors env staleMinutes limit => request w (scheduleMonitors env staleMinutes limit w)
  | .processConnectionJob env jobId commits => (processConnectionJob env jobId commits w, [])
  | .createPublishJob env contentId data key => request w (createPublishJob env contentId data key w)
  | .updatePublishedPost env postId data key => request w (updatePublishedPost env postId data key w)
  | .deletePublishedPost env postId data key => request w (deletePublishedPost env postId data key w)
  | .reconcilePublishedPost env postId data key =>
    request w (reconcilePublishedPost env postId data key w)
  | .rollbackPublishedPost env postId data key =>
    request w (rollbackPublishedPost env postId data key w)
  | .cancelPublishJob env jobId data => jobRequest w (cancelPublishJob env jobId data w)
  | .retryPublishJob env jobId data => jobRequest w (retryPublishJob env jobId data w)
  | .processPublishJob env jobId commits => deliver env jobId commits w
  | .tamperPolicies policies => ({ w with policies := policies }, [])
  | .changeRemote change => ({ w with remote := change w.remote }, [])

def step (a : Action ρ) : World ρ := (perform w a).1

/-- What the action does that the rows do not show. -/
def events (a : Action ρ) : List SagaEvent := (perform w a).2

/-- A workspace that has never published; the remote side is arbitrary. -/
def emptyWorkspace : Prop := ∃ remote nextId, w = { nextId, remote }

/-- Posts with the marker that they carry. -/
abbrev Site := List (String × RemotePost)

/-- Tells apart the bodies of the site, which have one key. -/
abbrev siteDigest : CanonicalHash where
  canonicalHash
    | .remoteBody body => body.foldl (fun text item => text ++ item.2) ""
    | _ => ""

def sitePost (remoteId state title : String) : RemotePost where
  remoteId := remoteId
  remoteUrl := "https://site.example/" ++ remoteId
  state := state
  etag := none
  updatedAt := none
  snapshot := [("title", title)]
  remoteHash := title

def siteState (document : PublishDocument) : String :=
  if document.visibility = .scheduled then "future" else "publish"

def answered {α : Type} (value : α) : ProviderCall α where
  value := value
  method := "GET"
  endpointPath := "/posts"
  statusCode := 200

def postNotFound : ProviderFailure where
  code := "PUBLISH_REMOTE_NOT_FOUND"
  detail := ""
  retryClass := .final
  statusCode := some 404

def siteOffline : ProviderFailure where
  code := "PUBLISH_PROVIDER_NETWORK_ERROR"
  detail := ""
  retryClass := .network

def siteDiagnostic : ProviderDiagnostic where
  checks := []
  capabilities := ["draft", "publish", "future", "update", "delete"]
  siteSettings := {}

def siteProvider : CMSProvider Site where
  diagnose _ _ site := (.ok (answered siteDiagnostic), site)
  refresh _ _ site := (.ok (answered siteDiagnostic), site)
  syncSettings _ _ site := (.ok (answered siteDiagnostic), site)
  findByMarker _ _ marker site := (.ok (answered (site.lookup marker)), site)
  createPost _ _ document site :=
    let post := sitePost (toString site.length) (siteState document) document.title
    (.ok (answered post), site ++ [(document.idempotencyMarker, post)])
  getPost _ _ remoteId site :=
    match site.find? (·.2.remoteId = remoteId) with
    | some item => (.ok (answered item.2), site)
    | none => (.error (.provider postNotFound), site)
  updatePost _ _ remote document site :=
    let post := sitePost remote.remoteId (siteState document) document.title
    (.ok (answered post), updateRow (·.2.remoteId) remote.remoteId
      (fun _ => (document.idempotencyMarker, post)) site)
  deletePost _ _ remote _ site := (.ok (answered remote), site.filter (·.2.remoteId ≠ remote.remoteId))
  cancelScheduled _ _ remote site := let post := { remote with state := "draft" }
    (.ok (answered post), updateRow (·.2.remoteId) remote.remoteId (fun item => (item.1, post)) site)
  uploadMedia _ _ _ site := (.error (.provider siteOffline), site)
  restoreSnapshot _ _ remote body site :=
    let title := body.foldl (fun text item => text ++ item.2) ""
    let post := sitePost remote.remoteId remote.state title
    (.ok (answered post), updateRow (·.2.remoteId) remote.remoteId (fun item => (item.1, post)) site)

def siteContent (title : String) : PublishReadyContent where
  contentId := 900
  contentVersionId := 901
  contentHash := "content"
  title := title
  document := []
  plainText := ""
  channel := "WORDPRESS"
  approvalRequestId := 902
  approvalSnapshotHash := "approval"
  approvedBy := 903
  media := []

def siteRequests (title : String) : RequestEnv where
  now := 0
  subjectId := 903
  lockVersionOf _ := 1
  zoneInfo _ := some { utcoffset := fun _ _ => 0, fromUtc := fun t => (t, false) }
  resolveReady _ := .ok (siteContent title)
  maxConnections := .ok 5
  validateSiteUrl url := .ok url
  validateSecretRef ref := .ok ref
  validateOptions _ _ := .ok ()

def siteWorker (provider : CMSProvider Site) (title : String) : WorkerEnv Site where
  now := 10
  requireProvider _ _ := .ok provider
  resolveSecret _ := .ok { values := [] }
  resolveReady _ := .ok (siteContent title)
  resolveMedia _ _ := .ok ""
  renderForCms _ _ _ _ := { html := "", unsupported := [] }

def siteConnectionWorker : ConnectionEnv Site where
  now := 10
  answeredAt := 10
  requireProvider _ _ := .ok siteProvider
  resolveSecret _ := .ok { values := [] }
  refreshSecret _ := .ok { values := [] }
  revokeSecret _ := .ok ()
  fromIsoFormat _ := none

/-- A policy (row 0) and a connection (row 1) that its diagnosis (row 2) made active;
its notice is row 3. -/
def siteSetup : List (Action Site) := [ .createPolicy (siteRequests "") {
    dailyQuotas := [("default", 5)]
    allowedProviders := [.wordpress]
    naverPolicyVersion := "1" },
  .createConnection (siteRequests "") {
    provider := .wordpress
    name := "site"
    siteUrl := "https://site.example"
    siteTimezone := "UTC"
    officialContract := "wordpress-rest-v2"
    apiVersion := "v2"
    credentialSecretRef := "secret" },
  .createConnectionJob (siteRequests "") 1 .diagnose {
    expectedLockVersion := 1
    idempotencyKey := "diagnose" },
  .processConnectionJob siteConnectionWorker 2 true]

/-- The usage row of the day is row 4, the job row 5. -/
def siteCreate (visibility : PublishVisibility) : Action Site :=
  .createPublishJob (siteRequests "first") 900 {
    contentVersionId := 901
    contentHash := "content"
    approvalRequestId := 902
    connectionId := 1
    visibility
    scheduledAtUtc := if visibility = .scheduled then some ⟨1000, 0⟩ else none
    scheduledLocal := if visibility = .scheduled then some { clock := 1000 } else none
    siteTimezone := if visibility = .scheduled then some "UTC" else none } "create"

def siteProcess (provider : CMSProvider Site) (title : String) (jobId : Uuid) : Action Site :=
  .processPublishJob (siteWorker provider title) jobId true

def emptySite : World Site := { remote := [] }

def publishedSite : World Site :=
  run step emptySite (siteSetup ++ [siteCreate .publish, siteProcess siteProvider "first" 5])

end BlogOps.Publishing
