import BlogOps.AppErrors
import BlogOps.EffectRules
import BlogOps.IpAddresses
import BlogOps.PythonText
import Mathlib.Data.List.Sort
import Mathlib.Data.String.Basic

/-!
# Guards of outbound requests

The guards that stand before a request leaves: of source URLs, of the addresses
a host resolves to, of webhook destinations, of tracking links and of export
downloads, and the fetcher that pins the resolved addresses of every hop.
Functions of the interpreter's library on URLs and host names are parameters.
-/

namespace BlogOps.Outbound

open BlogOps.EffectRules BlogOps.IpAddresses List

structure SplitResult where
  scheme : String
  netloc : String
  path : String
  query : String
  fragment : String
  username : Option String := none
  password : Option String := none
  hostname : Option String := none
  /-- `none` when reading the port raises a `ValueError`. -/
  port : Option (Option Nat) := some none
deriving DecidableEq, Repr

/-- The library functions that the guards call; `none` stands for a `ValueError`. -/
structure UrlTexts where
  urlsplit : String → Option SplitResult
  urlunsplit : String → String → String → String → String → String
  urljoin : String → String → String
  idna : String → Option String
  lower : String → String
  casefold : String → String
  parseQsl : String → List (String × String)
  urlencode : List (String × String) → String

def blocked (code message : String) (statusCode : Nat) : Failure := .app { code, message, statusCode }

/-- `not value` of an optional text. -/
def blank (value : Option String) : Bool := value.getD "" = ""

/-- `value.rstrip(".")`. -/
def rstripDots (value : String) : String :=
  String.ofList (value.toList.reverse.dropWhile (· = '.')).reverse

def endsWith (suffix value : String) : Bool := suffix.toList.isSuffixOf value.toList

variable (texts : UrlTexts)

def splitUrl (value : String) : Except Failure SplitResult :=
  match texts.urlsplit value with
  | some parsed => .ok parsed
  | none => .error .validationError

def blockedHosts : List String :=
  ["localhost", "localhost.localdomain", "metadata.google.internal", "metadata.google.internal.",
    "instance-data"]

def blockedSuffixes : List String := [".localhost", ".local", ".internal", ".home", ".lan"]

def isBlockedHost (hostname : String) : Bool :=
  hostname ∈ blockedHosts || blockedSuffixes.any (endsWith · hostname)

variable (properties : MappedProperties)

def isPublic (address : IpAddress) : Bool :=
  !(address.isPrivate || address.isLoopback properties || address.isLinkLocal properties ||
    address.isMulticast properties || address.isReserved properties ||
    address.isUnspecified properties)

def isPublicAddress (value : String) : Option Bool := (ipAddress value).map (isPublic properties)

structure ValidatedURL where
  normalized : String
  hostname : String
  port : Nat
deriving DecidableEq, Repr

def expectedPort (scheme : String) : Nat := if scheme = "https" then 443 else 80

/-- `parsed.port or default`. -/
def portOr (port : Option Nat) (default : Nat) : Nat :=
  match port with
  | some 0 => default
  | some port => port
  | none => default

def sourceHostname (hostname : String) : Except Failure String :=
  match texts.idna (rstripDots hostname) with
  | some encoded => .ok (texts.lower encoded)
  | none => .error (blocked "SOURCE_URL_INVALID" "호스트 이름이 올바르지 않습니다." 422)

def sourcePort (scheme : String) (port : Option (Option Nat)) : Except Failure Nat :=
  match port with
  | some port => .ok (portOr port (expectedPort scheme))
  | none => .error (blocked "SOURCE_URL_INVALID_PORT" "URL 포트가 올바르지 않습니다." 422)

def privateHost : Failure := blocked "SOURCE_URL_PRIVATE_HOST" "내부 네트워크 URL은 허용되지 않습니다." 422

def validateSourceUrl (texts : UrlTexts) (value : String) : Except Failure ValidatedURL := do
  require (value.length ≤ 2048) (blocked "SOURCE_URL_TOO_LONG" "URL이 허용 길이를 초과했습니다." 422)
  let parsed ← splitUrl texts (PythonText.strip value)
  let scheme := texts.lower parsed.scheme
  require (scheme = "http" ∨ scheme = "https")
    (blocked "SOURCE_URL_SCHEME_BLOCKED" "HTTP 또는 HTTPS URL만 허용됩니다." 422)
  require (blank parsed.username = true ∧ blank parsed.password = true)
    (blocked "SOURCE_URL_CREDENTIAL_BLOCKED" "인증정보가 포함된 URL은 허용되지 않습니다." 422)
  require (blank parsed.hostname = false) (blocked "SOURCE_URL_INVALID" "호스트가 없는 URL입니다." 422)
  let hostname ← sourceHostname texts (parsed.hostname.getD "")
  require (isBlockedHost hostname = false) privateHost
  -- a host that is no literal address is left to the resolver
  require (isPublicAddress properties hostname ≠ some false) privateHost
  let port ← sourcePort scheme parsed.port
  require (port = expectedPort scheme) (blocked "SOURCE_URL_PORT_BLOCKED" "허용되지 않은 URL 포트입니다." 422)
  let path := if parsed.path = "" then "/" else parsed.path
  return { normalized := texts.urlunsplit scheme hostname path parsed.query "", hostname, port }

/-- `any(not _is_public_address(value) for value in addresses)`: the first address that is not
public ends the search, and one that cannot be read raises. -/
def anyNotPublic (properties : MappedProperties) : List String → Except Failure Bool
  | [] => .ok false
  | value :: rest =>
    match isPublicAddress properties value with
    | none => .error .validationError
    | some false => .ok true
    | some true => anyNotPublic properties rest

def rebindingBlocked : Failure := blocked "SOURCE_URL_DNS_REBINDING_BLOCKED"
    "URL이 내부 또는 확인할 수 없는 주소로 해석되었습니다." 422

def validateResolvedAddresses (addresses : List String) : Except Failure Unit := do
  require (addresses ≠ []) rebindingBlocked
  let found ← anyNotPublic properties addresses
  require (found = false) rebindingBlocked

def validateWebhookDestination (texts : UrlTexts) (url : String) (resolvedAddresses : List String) :
    Except Failure String := do
  let original ← splitUrl texts (PythonText.strip url)
  require (original.query = "" ∧ original.fragment = "")
    (blocked "WEBHOOK_URL_SECRET_CHANNEL_BLOCKED"
      "Webhook URL에는 Query 또는 Fragment를 포함할 수 없습니다. HMAC Secret을 사용하세요." 422)
  let validated ← validateSourceUrl properties texts url
  let normalized ← splitUrl texts validated.normalized
  require (normalized.scheme = "https")
    (blocked "WEBHOOK_HTTPS_REQUIRED" "Webhook Endpoint는 HTTPS여야 합니다." 422)
  validateResolvedAddresses properties resolvedAddresses
  return validated.normalized

def unsafeTrackingHost : Failure := blocked "UNSAFE_TRACKING_DESTINATION"
    "로컬 또는 비공개 네트워크는 추적 링크 목적지로 사용할 수 없습니다." 422

/-- `d[key] = value` of an ordered dict. -/
def setItem (entries : List (String × String)) (key value : String) : List (String × String) :=
  if entries.any (·.1 = key) then
    entries.map fun entry => if entry.1 = key then (key, value) else entry
  else entries ++ [(key, value)]

def dictOf (pairs : List (String × String)) : List (String × String) :=
  pairs.foldl (fun entries pair => setItem entries pair.1 pair.2) []

def literalGlobal (host : String) : Bool := (ipAddress host).all IpAddress.isGlobal

/-- A parameter is `none` when it is no text. -/
def safeTrackingDestination (destinationUrl : String) (parameters : List (String × Option String)) :
    Except Failure String := do
  let parsed ← splitUrl texts destinationUrl
  require (parsed.scheme = "https" ∧ blank parsed.hostname = false ∧ blank parsed.username = true ∧
      blank parsed.password = true)
    (blocked "UNSAFE_TRACKING_DESTINATION" "추적 링크 목적지는 자격 증명이 없는 HTTPS URL이어야 합니다." 422)
  let host := texts.lower (rstripDots (parsed.hostname.getD ""))
  require (host ≠ "localhost" ∧ endsWith ".localhost" host = false) unsafeTrackingHost
  require (literalGlobal host = true) unsafeTrackingHost
  require (∀ parameter ∈ parameters, parameter.1 ≠ "" ∧ parameter.2.isSome = true)
    (blocked "INVALID_TRACKING_PARAMETERS" "추적 파라미터는 비어 있지 않은 문자열 키와 문자열 값이어야 합니다." 422)
  let query := parameters.foldl (fun entries parameter =>
    setItem entries parameter.1 (parameter.2.getD "")) (dictOf (texts.parseQsl parsed.query))
  return texts.urlunsplit parsed.scheme parsed.netloc parsed.path (texts.urlencode query) ""

def unsafeDownload : Failure := blocked "PRIVACY_DOWNLOAD_URL_UNSAFE" "내보내기 다운로드 주소가 안전하지 않습니다." 503

def validateSecureDownloadUrl (value : String) : Except Failure Unit := do
  let parsed ← splitUrl texts value
  require (parsed.scheme = "https" ∧ blank parsed.hostname = false ∧ parsed.username = none ∧
      parsed.password = none)
    (blocked "PRIVACY_DOWNLOAD_URL_UNSAFE" "내보내기 다운로드 주소는 자격 증명이 없는 HTTPS 주소여야 합니다." 503)
  let host := texts.casefold (rstripDots (parsed.hostname.getD ""))
  require (host ≠ "localhost" ∧ endsWith ".localhost" host = false) unsafeDownload
  require (literalGlobal host = true) unsafeDownload

/-- The resolver that a request is given: the host and the addresses it is pinned to. -/
structure PinnedResolver where
  hostname : String
  addresses : List String
deriving DecidableEq, Repr

structure HttpResponse where
  status : Nat
  headers : List (String × String)
  contentLength : Option Nat
  chunks : List (List UInt8)

/-- What the network and the robots rules answer to the `n`-th request of a fetch. -/
structure Network where
  /-- `none` for an `OSError`. -/
  getaddrinfo : Nat → String → Nat → Option (List String)
  /-- `none` for a timeout or a client error. -/
  respond : Nat → Option HttpResponse
  canFetch : Nat → Bool

structure FetchLog where
  requests : Nat
  pinned : List PinnedResolver

abbrev FetchM := EStateM Failure FetchLog

def resolve (results : Option (List String)) : Except Failure (List String) :=
  match results with
  | none => .error (blocked "SOURCE_URL_DNS_FAILED" "URL 호스트를 확인할 수 없습니다." 422)
  | some results =>
    let addresses := results.dedup.insertionSort (· ≤ ·)
    (validateResolvedAddresses properties addresses).map fun _ => addresses

def readBody (maxBytes : Nat) (response : HttpResponse) (allowNotFound : Bool) :
    Except Failure HttpResponse :=
  if response.status = 404 ∧ allowNotFound = true then .ok { response with chunks := [] }
  else do
    require (response.status ∉ [408, 425, 429] ∧ response.status < 500)
      (blocked "SOURCE_FETCH_RETRYABLE" "원격 소스가 일시적으로 응답하지 않습니다." 503)
    require (response.status < 400)
      (blocked "SOURCE_FETCH_REJECTED" ("원격 소스가 요청을 거부했습니다(" ++ toString response.status ++ ").") 422)
    require (response.contentLength.all (· ≤ maxBytes) = true)
      (blocked "SOURCE_TOO_LARGE" "원격 소스가 허용 크기를 초과했습니다." 422)
    require (response.chunks.flatten.length ≤ maxBytes)
      (blocked "SOURCE_TOO_LARGE" "원격 소스가 허용 크기를 초과했습니다." 422)
    return response

section Fetch

variable (properties : MappedProperties) (texts : UrlTexts) (network : Network)

/-- `_request`: the addresses are resolved and pinned before the connection. -/
def request (url : String) (maxBytes : Nat) (allowNotFound : Bool) : FetchM HttpResponse := do
  let validated ← MonadExcept.ofExcept (validateSourceUrl properties texts url)
  let n := (← get).requests
  let addresses ← MonadExcept.ofExcept
    (resolve properties (network.getaddrinfo n validated.hostname validated.port))
  modify fun log =>
    { requests := log.requests + 1, pinned := log.pinned ++ [⟨validated.hostname, addresses⟩] }
  MonadExcept.ofExcept (match network.respond n with
    | none => .error (blocked "SOURCE_FETCH_RETRYABLE" "원격 소스 연결에 실패했습니다." 503)
    | some response => readBody maxBytes response allowNotFound)

def isRedirect (status : Nat) : Bool := status ∈ [301, 302, 303, 307, 308]

/-- `f"{parsed.scheme}://{parsed.hostname}/robots.txt"`. -/
def robotsUrl (parsed : SplitResult) : String :=
  parsed.scheme ++ "://" ++ parsed.hostname.getD "None" ++ "/robots.txt"

def assertRobotsAllowed (url : String) : FetchM Unit := do
  let parsed ← MonadExcept.ofExcept (splitUrl texts url)
  let n := (← get).requests
  let response ← request properties texts network (robotsUrl parsed) (512 * 1024) true
  if response.status = 404 then pure ()
  else if isRedirect response.status then
    throw (blocked "SOURCE_ROBOTS_UNVERIFIED" "robots 정책의 리디렉션을 안전하게 확인할 수 없습니다." 422)
  else if network.canFetch n then pure ()
  else throw (blocked "SOURCE_ROBOTS_BLOCKED" "이 URL은 robots 정책에 따라 수집할 수 없습니다." 422)

structure FetchResponse where
  body : List UInt8
  finalUrl : String
  contentType : String
  etag : Option String
  lastModified : Option String

/-- `headers.get(name) or headers.get(other)`. -/
def headerOf (headers : List (String × String)) (name other : String) : Option String :=
  if blank (headers.lookup name) = true then headers.lookup other else headers.lookup name

def contentTypeOf (texts : UrlTexts) (headers : List (String × String)) : String :=
  let value := (headerOf headers "Content-Type" "content-type").getD ""
  let value := if value = "" then "application/octet-stream" else value
  texts.lower (PythonText.strip (String.ofList (value.toList.takeWhile (· ≠ ';'))))

def fetchResponse (texts : UrlTexts) (finalUrl : String) (response : HttpResponse) : FetchResponse where
  body := response.chunks.flatten
  finalUrl := finalUrl
  contentType := contentTypeOf texts response.headers
  etag := headerOf response.headers "ETag" "etag"
  lastModified := headerOf response.headers "Last-Modified" "last-modified"

def redirectTarget (current location : String) : Except Failure String :=
  if location = "" then
    .error (blocked "SOURCE_REDIRECT_INVALID" "리디렉션 위치가 없습니다." 422)
  else (validateSourceUrl properties texts (texts.urljoin current location)).map (·.normalized)

/-- The hops that are left, from the URL `current`. -/
def fetchHops (maxBytes : Nat) : Nat → List String → String → FetchM FetchResponse
  | 0, _, _ =>
    throw (blocked "SOURCE_REDIRECT_LIMIT" "URL 리디렉션 횟수를 초과했습니다." 422)
  | hops + 1, visited, current =>
    if current ∈ visited then
      throw (blocked "SOURCE_REDIRECT_LOOP" "URL 리디렉션이 반복됩니다." 422)
    else do
      assertRobotsAllowed properties texts network current
      let response ← request properties texts network current maxBytes false
      if isRedirect response.status then do
        let next ← MonadExcept.ofExcept
          (redirectTarget properties texts current
            ((headerOf response.headers "Location" "location").getD ""))
        fetchHops maxBytes hops (current :: visited) next
      else pure (fetchResponse texts current response)

def fetch (maxRedirects maxBytes : Nat) (url : String) : FetchM FetchResponse := do
  let validated ← MonadExcept.ofExcept (validateSourceUrl properties texts url)
  fetchHops properties texts network maxBytes (maxRedirects + 1) [] validated.normalized

end Fetch

section Guards

variable {properties : MappedProperties} {texts : UrlTexts} {address : IpAddress}

theorem isPublic_iff : isPublic properties address = true ↔ address.isPrivate = false ∧
    address.isMulticast properties = false ∧ address.isReserved properties = false := by
  constructor
  · intro h
    simp only [isPublic, Bool.not_or, Bool.and_eq_true, Bool.not_eq_true'] at h
    exact ⟨h.1.1.1.1.1, h.1.1.2, h.1.2⟩
  · rintro ⟨hprivate, hmulticast, hreserved⟩
    have hloopback : address.isLoopback properties = false :=
      Bool.eq_false_iff.2 fun h =>
        Bool.eq_false_iff.1 hprivate (IpAddress.isPrivate_of_isLoopback h)
    have hlinkLocal : address.isLinkLocal properties = false :=
      Bool.eq_false_iff.2 fun h =>
        Bool.eq_false_iff.1 hprivate (IpAddress.isPrivate_of_isLinkLocal h)
    have hunspecified : address.isUnspecified properties = false :=
      Bool.eq_false_iff.2 fun h =>
        Bool.eq_false_iff.1 hprivate (IpAddress.isPrivate_of_isUnspecified h)
    simp only [isPublic, hprivate, hmulticast, hreserved, hloopback, hlinkLocal, hunspecified,
      Bool.or_self, Bool.not_false]

theorem isPublic_iff_isGlobal (h : ¬address.IsShared) : isPublic properties address = true ↔
    address.isGlobal = true ∧ address.isMulticast properties = false ∧
      address.isReserved properties = false := by
  rw [isPublic_iff, IpAddress.isGlobal_eq_not_isPrivate h, Bool.not_eq_true']

theorem not_isInternal_of_isPublic (h : isPublic properties address = true) : ¬address.IsInternal := by
  intro hinternal
  obtain ⟨hprivate, -, hreserved⟩ := isPublic_iff.1 h
  rcases IpAddress.isPrivate_or_isReserved_of_isInternal hinternal properties with h | h
  · exact Bool.eq_false_iff.1 hprivate h
  · exact Bool.eq_false_iff.1 hreserved h

variable {values : List String}

theorem anyNotPublic_eq_false : anyNotPublic properties values = .ok false ↔
      ∀ value ∈ values, ∃ address, ipAddress value = some address ∧
        isPublic properties address = true := by
  induction values with
  | nil => simp [anyNotPublic]
  | cons value rest ih =>
    unfold anyNotPublic isPublicAddress
    cases haddress : ipAddress value with
    | none => simp [haddress]
    | some address => cases hpublic : isPublic properties address <;> simp [haddress, hpublic, ih]

/-- The guard of resolved addresses passes a list of public addresses, unless it is empty. -/
theorem validateResolvedAddresses_iff : validateResolvedAddresses properties values = .ok () ↔ values ≠ [] ∧
      ∀ value ∈ values, ∃ address, ipAddress value = some address ∧
        isPublic properties address = true := by
  rw [← anyNotPublic_eq_false]
  constructor
  · intro h
    obtain ⟨u, hne, h⟩ := bind_ok h
    obtain ⟨found, hfound, h⟩ := bind_ok h
    have hfalse := require_ok h
    subst hfalse
    exact ⟨require_ok hne, hfound⟩
  · rintro ⟨hne, hfound⟩
    unfold validateResolvedAddresses
    rw [require_of hne, bind_of_ok rfl, hfound]
    rfl

/-- The texts of the addresses. -/
def Read (values : List String) (addresses : List IpAddress) : Prop :=
  List.Forall₂ (fun value address => ipAddress value = some address) values addresses

theorem Read.nil_iff {addresses : List IpAddress} (h : Read values addresses) :
    values = [] ↔ addresses = [] := by
  cases h with
  | nil => exact ⟨fun _ => rfl, fun _ => rfl⟩
  | cons hfirst hrest => exact ⟨nofun, nofun⟩

theorem Read.forall_public_iff {addresses : List IpAddress} (h : Read values addresses) :
    (∀ value ∈ values, ∃ address, ipAddress value = some address ∧ isPublic properties address = true) ↔
      ∀ address ∈ addresses, isPublic properties address = true := by
  induction h with
  | nil => simp
  | cons hfirst hrest ih => simp [hfirst, ih]

def NoneInternal (values : List String) : Prop :=
  ∀ value ∈ values, ∃ address, ipAddress value = some address ∧ ¬address.IsInternal

theorem noneInternal_of_validated (h : validateResolvedAddresses properties values = .ok ()) :
    NoneInternal values := by
  intro value hvalue
  obtain ⟨address, haddress, hpublic⟩ := (validateResolvedAddresses_iff.1 h).2 value hvalue
  exact ⟨address, haddress, not_isInternal_of_isPublic hpublic⟩

theorem noneInternal_of_webhook {url normalized : String}
    (h : validateWebhookDestination properties texts url values = .ok normalized) : NoneInternal values := by
  obtain ⟨original, -, h⟩ := bind_ok h
  obtain ⟨u, -, h⟩ := bind_ok h
  obtain ⟨validated, -, h⟩ := bind_ok h
  obtain ⟨parsed, -, h⟩ := bind_ok h
  obtain ⟨u, -, h⟩ := bind_ok h
  obtain ⟨u, hvalidated, -⟩ := bind_ok h
  exact noneInternal_of_validated hvalidated

theorem noneInternal_of_resolve {results : Option (List String)} {addresses : List String}
    (h : resolve properties results = .ok addresses) : NoneInternal addresses := by
  cases results with
  | none => cases h
  | some results =>
    obtain ⟨u, hvalidated, rfl⟩ := map_ok h
    exact noneInternal_of_validated hvalidated

theorem isPublicAddress_of_validated {url : String} {validated : ValidatedURL}
    (h : validateSourceUrl properties texts url = .ok validated) :
    isPublicAddress properties validated.hostname ≠ some false := by
  obtain ⟨u, -, h⟩ := bind_ok h
  obtain ⟨parsed, -, h⟩ := bind_ok h
  obtain ⟨u, -, h⟩ := bind_ok h
  obtain ⟨u, -, h⟩ := bind_ok h
  obtain ⟨u, -, h⟩ := bind_ok h
  obtain ⟨hostname, -, h⟩ := bind_ok h
  obtain ⟨u, -, h⟩ := bind_ok h
  obtain ⟨u, hpublic, h⟩ := bind_ok h
  obtain ⟨port, -, h⟩ := bind_ok h
  obtain ⟨u, -, h⟩ := bind_ok h
  cases h
  exact require_ok hpublic

/-- A pinned host reaches no internal address, neither through the resolver nor as a literal. -/
structure Guarded (resolver : PinnedResolver) : Prop where
  addresses : NoneInternal resolver.addresses
  literal : ∀ address, ipAddress resolver.hostname = some address → ¬address.IsInternal

theorem guarded_of_request {url : String} {validated : ValidatedURL} {results : Option (List String)}
    {addresses : List String} (hvalidated : validateSourceUrl properties texts url = .ok validated)
    (hresolved : resolve properties results = .ok addresses) : Guarded ⟨validated.hostname, addresses⟩ where
  addresses := noneInternal_of_resolve hresolved
  literal := by
    intro address haddress
    have hpublic := isPublicAddress_of_validated hvalidated
    unfold isPublicAddress at hpublic
    rw [haddress] at hpublic
    apply not_isInternal_of_isPublic
    cases hresult : isPublic properties address with
    | true => rfl
    | false => exact absurd (congrArg some hresult) hpublic

def AllGuarded (log : FetchLog) : Prop := ∀ resolver ∈ log.pinned, Guarded resolver

variable {network : Network}

theorem keeps_request (url : String) (maxBytes : Nat) (allowNotFound : Bool) :
    Keeps (Preserves AllGuarded) (request properties texts network url maxBytes allowNotFound) := by
  intro log
  unfold request
  rw [ends_bind, ends_ofExcept]
  cases hvalidated : validateSourceUrl properties texts url with
  | error e => exact id
  | ok validated =>
    rw [continues_ok, ends_bind, ends_get, continues_ok, ends_bind, ends_ofExcept]
    cases hresolved : resolve properties
        (network.getaddrinfo log.requests validated.hostname validated.port) with
    | error e => exact id
    | ok addresses =>
      rw [continues_ok, ends_bind, ends_modify, continues_ok, ends_ofExcept]
      intro hlog resolver hresolver
      rcases mem_append.1 hresolver with hresolver | hresolver
      · exact hlog resolver hresolver
      · rw [mem_singleton.1 hresolver]
        exact guarded_of_request hvalidated hresolved

theorem keeps_assertRobotsAllowed (url : String) :
    Keeps (Preserves AllGuarded) (assertRobotsAllowed properties texts network url) := by
  refine keeps_bind (keeps_ofExcept _) fun parsed => keeps_bind keeps_get fun log =>
    keeps_bind (keeps_request _ _ _) fun response => ?_
  refine keeps_ite (keeps_pure _) (keeps_ite (keeps_throw _) ?_)
  exact keeps_ite (keeps_pure _) (keeps_throw _)

theorem keeps_fetchHops (maxBytes hops : Nat) (visited : List String) (current : String) :
    Keeps (Preserves AllGuarded)
      (fetchHops properties texts network maxBytes hops visited current) := by
  induction hops generalizing visited current with
  | zero => exact keeps_throw _
  | succ hops ih =>
    unfold fetchHops
    refine keeps_ite (keeps_throw _) ?_
    refine keeps_bind (keeps_assertRobotsAllowed _) fun _ =>
      keeps_bind (keeps_request _ _ _) fun response => ?_
    refine keeps_ite (keeps_bind (keeps_ofExcept _) fun next => ?_) (keeps_pure _)
    exact ih _ _

/-- Every host that a fetch connects to, at any hop and whatever the resolver answers, is guarded. -/
theorem ends_fetch (maxRedirects maxBytes : Nat) (url : String) :
    Ends (fetch properties texts network maxRedirects maxBytes url) ⟨0, []⟩
      fun _ log => AllGuarded log := by
  have hkeeps : Keeps (Preserves AllGuarded)
      (fetch properties texts network maxRedirects maxBytes url) :=
    keeps_bind (keeps_ofExcept _) fun _ => keeps_fetchHops _ _ _ _
  refine (hkeeps ⟨0, []⟩).mono fun _ log hlog => hlog ?_
  intro resolver hresolver
  cases hresolver

end Guards

/-- A URL that the three guards read alike, whose host is the text of an address: HTTPS on the
default port, without credentials, its host in each guard's normal form the same text. -/
structure LiteralUrl (texts : UrlTexts) (url : String) (parsed : SplitResult) (host : String)
    (address : IpAddress) : Prop where
  short : url.length ≤ 2048
  split : texts.urlsplit url = some parsed
  stripped : texts.urlsplit (PythonText.strip url) = some parsed
  https : parsed.scheme = "https"
  lowered : texts.lower "https" = "https"
  username : parsed.username = none
  password : parsed.password = none
  hostname : blank parsed.hostname = false
  port : parsed.port = some none ∨ parsed.port = some (some 443)
  encoded : (texts.idna (rstripDots (parsed.hostname.getD ""))).map texts.lower = some host
  lower : texts.lower (rstripDots (parsed.hostname.getD "")) = host
  folded : texts.casefold (rstripDots (parsed.hostname.getD "")) = host
  literal : ipAddress host = some address
  /-- Only the scope of an address can hold such a name. -/
  named : isBlockedHost host = false

namespace LiteralUrl

variable {properties : MappedProperties} {texts : UrlTexts} {url host : String}
  {parsed : SplitResult} {address : IpAddress}

section

variable (h : LiteralUrl texts url parsed host address)

include h

theorem sourceHostname_eq : sourceHostname texts (parsed.hostname.getD "") = .ok host := by
  obtain ⟨encoded, hencoded, hhost⟩ := Option.map_eq_some_iff.1 h.encoded
  simp only [sourceHostname, hencoded, hhost]

theorem sourcePort_eq : sourcePort "https" parsed.port = .ok 443 := by
  rcases h.port with hport | hport
  · rw [hport]
    rfl
  · rw [hport]
    rfl

/-- The guard of source URLs passes a literal host if its address is public. -/
theorem source_iff : (∃ validated, validateSourceUrl properties texts url = .ok validated) ↔
      isPublic properties address = true := by
  have hsplit : splitUrl texts (PythonText.strip url) = .ok parsed := by
    simp only [splitUrl, h.stripped]
  have hpublic : isPublicAddress properties host = some (isPublic properties address) := by
    simp only [isPublicAddress, h.literal, Option.map_some]
  have hcredentials : blank parsed.username = true ∧ blank parsed.password = true := by
    rw [h.username, h.password]
    exact ⟨rfl, rfl⟩
  unfold validateSourceUrl
  rw [require_of h.short, bind_of_ok rfl, hsplit, bind_of_ok rfl]
  dsimp only
  rw [h.https, h.lowered, require_of (.inr rfl), bind_of_ok rfl, require_of hcredentials,
    bind_of_ok rfl, require_of h.hostname, bind_of_ok rfl, h.sourceHostname_eq, bind_of_ok rfl,
    require_of h.named, bind_of_ok rfl, hpublic, h.sourcePort_eq]
  cases isPublic properties address with
  | true =>
    rw [require_of (by decide)]
    exact ⟨fun _ => rfl, fun _ => ⟨_, rfl⟩⟩
  | false =>
    constructor
    · rintro ⟨validated, hvalidated⟩
      obtain ⟨u, hfalse, -⟩ := bind_ok hvalidated
      exact absurd rfl (require_ok hfalse)
    · exact nofun

theorem not_localhost : host ≠ "localhost" ∧ endsWith ".localhost" host = false := by
  have hnamed := h.named
  simp only [isBlockedHost, blockedHosts, blockedSuffixes, any_cons, Bool.or_eq_false_iff] at hnamed
  refine ⟨fun hhost => ?_, hnamed.2.1⟩
  exact of_decide_eq_false hnamed.1 (hhost ▸ mem_cons_self)

theorem literalGlobal_eq : literalGlobal host = address.isGlobal := by
  simp only [literalGlobal, h.literal, Option.all_some]

/-- The guard of tracking links passes a literal host if its address is global. -/
theorem tracking_iff {parameters : List (String × Option String)}
    (hparameters : ∀ parameter ∈ parameters, parameter.1 ≠ "" ∧ parameter.2.isSome = true) :
    (∃ destination, safeTrackingDestination texts url parameters = .ok destination) ↔
      address.isGlobal = true := by
  have hsplit : splitUrl texts url = .ok parsed := by
    simp only [splitUrl, h.split]
  have hparsed : parsed.scheme = "https" ∧ blank parsed.hostname = false ∧
      blank parsed.username = true ∧ blank parsed.password = true := by
    rw [h.username, h.password]
    exact ⟨h.https, h.hostname, rfl, rfl⟩
  unfold safeTrackingDestination
  rw [hsplit, bind_of_ok rfl, require_of hparsed, bind_of_ok rfl]
  dsimp only
  rw [h.lower, require_of h.not_localhost, bind_of_ok rfl, h.literalGlobal_eq, require_of hparameters]
  constructor
  · rintro ⟨destination, hdestination⟩
    obtain ⟨u, hglobal, -⟩ := bind_ok hdestination
    exact require_ok hglobal
  · intro hglobal
    rw [require_of hglobal]
    exact ⟨_, rfl⟩

/-- The guard of export downloads passes a literal host if its address is global. -/
theorem download_iff : validateSecureDownloadUrl texts url = .ok () ↔ address.isGlobal = true := by
  have hsplit : splitUrl texts url = .ok parsed := by
    simp only [splitUrl, h.split]
  unfold validateSecureDownloadUrl
  rw [hsplit, bind_of_ok rfl, require_of ⟨h.https, h.hostname, h.username, h.password⟩, bind_of_ok rfl]
  dsimp only
  rw [h.folded, require_of h.not_localhost, bind_of_ok rfl, h.literalGlobal_eq]
  exact ⟨require_ok, fun hglobal => require_of hglobal _⟩

end

end LiteralUrl

/-- Of addresses outside the shared space the guard of resolved addresses passes the lists, not
empty, whose every address is global, not multicast and not reserved; no address that it passes to a
webhook or that a fetch connects to is internal; and on literal hosts outside the shared space,
neither multicast nor reserved, the guard of source URLs agrees with the guards that ask for a global
address. -/
theorem outbound_addresses_guarded (properties : MappedProperties) :
    (∀ (values : List String) (addresses : List IpAddress),
      Read values addresses → (∀ address ∈ addresses, ¬address.IsShared) →
      (validateResolvedAddresses properties values = .ok () ↔ addresses ≠ [] ∧
        ∀ address ∈ addresses, address.isGlobal = true ∧ address.isMulticast properties = false ∧
          address.isReserved properties = false)) ∧
    (∀ values : List String, validateResolvedAddresses properties values = .ok () → NoneInternal values) ∧
    (∀ (texts : UrlTexts) (url normalized : String) (values : List String),
      validateWebhookDestination properties texts url values = .ok normalized →
      NoneInternal values) ∧
    (∀ (texts : UrlTexts) (network : Network) (maxRedirects maxBytes : Nat) (url : String),
      Ends (fetch properties texts network maxRedirects maxBytes url) ⟨0, []⟩
        fun _ log => ∀ resolver ∈ log.pinned, Guarded resolver) ∧
    ∀ (texts : UrlTexts) (url : String) (parsed : SplitResult) (host : String)
      (address : IpAddress), LiteralUrl texts url parsed host address → ¬address.IsShared →
      address.isMulticast properties = false → address.isReserved properties = false →
      ((∃ validated, validateSourceUrl properties texts url = .ok validated) ↔
        validateSecureDownloadUrl texts url = .ok ()) ∧
      ∀ parameters : List (String × Option String),
        (∀ parameter ∈ parameters, parameter.1 ≠ "" ∧ parameter.2.isSome = true) →
        ((∃ validated, validateSourceUrl properties texts url = .ok validated) ↔
          ∃ destination, safeTrackingDestination texts url parameters = .ok destination) := by
  refine ⟨?_, fun _ => noneInternal_of_validated, fun _ _ _ _ => noneInternal_of_webhook,
    fun _ _ _ _ _ => ends_fetch _ _ _, ?_⟩
  · intro values addresses hread hshared
    rw [validateResolvedAddresses_iff, hread.forall_public_iff, ne_eq, hread.nil_iff]
    refine and_congr_right fun _ => forall₂_congr fun address haddress => ?_
    exact isPublic_iff_isGlobal (hshared address haddress)
  · intro texts url parsed host address hliteral hshared hmulticast hreserved
    have hpublic : isPublic properties address = true ↔ address.isGlobal = true := by
      rw [isPublic_iff_isGlobal hshared]
      exact ⟨fun h => h.1, fun h => ⟨h, hmulticast, hreserved⟩⟩
    refine ⟨?_, fun parameters hparameters => ?_⟩
    · rw [hliteral.source_iff, hliteral.download_iff, hpublic]
    · rw [hliteral.source_iff, hliteral.tracking_iff hparameters, hpublic]

def sampleUrl : String := "https://8.8.8.8/"

def sampleParsed : SplitResult :=
  { scheme := "https", netloc := "8.8.8.8", path := "/", query := "", fragment := ""
    hostname := some "8.8.8.8" }

/-- The library functions on the one URL of the sample. -/
def sampleTexts : UrlTexts where
  urlsplit _ := some sampleParsed
  urlunsplit _ _ _ _ _ := sampleUrl
  urljoin _ location := location
  idna := some
  lower value := value
  casefold value := value
  parseQsl _ := []
  urlencode _ := ""

def sampleProperties : MappedProperties := ⟨false, false, false, false, false⟩

theorem sample_literalUrl : LiteralUrl sampleTexts sampleUrl sampleParsed "8.8.8.8" (.v4 0x08080808#32) where
  short := by decide +kernel
  split := rfl
  stripped := rfl
  https := rfl
  lowered := rfl
  username := rfl
  password := rfl
  hostname := by decide +kernel
  port := .inl rfl
  encoded := by decide +kernel
  lower := by decide +kernel
  folded := by decide +kernel
  literal := by decide +kernel
  named := by decide +kernel

theorem outbound_addresses_sample : validateResolvedAddresses sampleProperties ["8.8.8.8"] = .ok () ∧
    NoneInternal ["8.8.8.8"] ∧
    validateSecureDownloadUrl sampleTexts sampleUrl = .ok () ∧
    ∃ destination, safeTrackingDestination sampleTexts sampleUrl [] = .ok destination := by
  obtain ⟨hlists, hvalidated, hwebhook, -, hliteral⟩ := outbound_addresses_guarded sampleProperties
  have hread : Read ["8.8.8.8"] [.v4 0x08080808#32] := .cons (by decide +kernel) .nil
  have hshared : ¬(IpAddress.v4 0x08080808#32).IsShared := by
    unfold IpAddress.IsShared
    decide +kernel
  have hsource : validateSourceUrl sampleProperties sampleTexts sampleUrl =
      .ok ⟨sampleUrl, "8.8.8.8", 443⟩ := by
    decide +kernel
  have hagree := hliteral sampleTexts sampleUrl sampleParsed "8.8.8.8" _ sample_literalUrl hshared
    (by decide +kernel) (by decide +kernel)
  refine ⟨?_, ?_, hagree.1.1 ⟨_, hsource⟩, (hagree.2 [] nofun).1 ⟨_, hsource⟩⟩
  · apply (hlists _ _ hread fun address haddress => mem_singleton.1 haddress ▸ hshared).2
    refine ⟨cons_ne_nil _ _, fun address haddress => ?_⟩
    rw [mem_singleton.1 haddress]
    decide +kernel
  · exact hwebhook sampleTexts sampleUrl sampleUrl _ (by decide +kernel)

/-- An address of the shared space passes though it is not global, and one of a reserved network is
refused though it is global and not multicast. -/
theorem shared_passes_reserved_refused : (Read ["100.64.0.1"] [.v4 0x64400001#32] ∧
      validateResolvedAddresses sampleProperties ["100.64.0.1"] = .ok () ∧
      (IpAddress.v4 0x64400001#32).isGlobal = false) ∧
    (Read ["4000::1"] [.v6 0x40000000000000000000000000000001#128] ∧
      validateResolvedAddresses sampleProperties ["4000::1"] = .error rebindingBlocked ∧
      (IpAddress.v6 0x40000000000000000000000000000001#128).isGlobal = true ∧
      (IpAddress.v6 0x40000000000000000000000000000001#128).isMulticast sampleProperties =
        false) := by
  refine ⟨⟨.cons (by decide +kernel) .nil, ?_⟩, .cons (by decide +kernel) .nil, ?_⟩
  · decide +kernel
  · decide +kernel

end BlogOps.Outbound
