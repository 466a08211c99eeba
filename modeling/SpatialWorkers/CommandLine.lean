import SpatialWorkers.DecimalNumerals
import SpatialWorkers.Workers

/-!
# The command lines of the workers

Either worker turns its arguments into one call of `ConnectAsync` or prints its
usage and returns. What the usage promises is a partial function from argument
lists to requests; the code checks less than that, and the results say exactly
where the two part.
-/
namespace SpatialWorkers
open DecimalNumerals

inductive NetworkConnectionType
  | kTcp
  | kRaknet
  deriving DecidableEq, Repr

structure NetworkParameters where
  useExternalIp : Bool
  connectionType : NetworkConnectionType
  deriving DecidableEq, Repr

structure ConnectionParameters where
  workerType : String
  network : NetworkParameters
  deriving DecidableEq, Repr

inductive LocatorCredentialsType
  | kLoginToken
  | kSteam
  deriving DecidableEq, Repr

structure LoginTokenCredentials where
  token : String
  deriving DecidableEq, Repr

structure LocatorParameters where
  projectName : String
  credentialsType : LocatorCredentialsType
  loginToken : LoginTokenCredentials
  deriving DecidableEq, Repr

structure Locator where
  hostname : String
  parameters : LocatorParameters
  deriving DecidableEq, Repr

structure QueueStatus where
  positionInQueue : ℕ
  error : Option String
  deriving DecidableEq, Repr

/-- What a callback writes, and whether it wants to go on queueing. -/
abbrev QueueStatusCallback := QueueStatus → Event × Bool

/-- A call of `ConnectAsync`, on `Connection` or on a locator. -/
inductive ConnectAsync
  | connection (hostname : String) (port : BitVec 16) (workerId : String)
      (parameters : ConnectionParameters)
  | locator (locator : Locator) (deploymentName : String) (parameters : ConnectionParameters)
      (callback : QueueStatusCallback)

def queueStatusCallback (workerType : String) : QueueStatusCallback := fun queueStatus =>
  match queueStatus.error with
  | some error => (.write .stderr ("Error while queueing: " ++ error), false)
  | none =>
    (.write .stdout ("Worker of type '" ++ workerType ++
      "' connecting through locator: queueing."), true)

def connectWithLocator (hostname projectName deploymentId loginToken : String)
    (parameters : ConnectionParameters) : ConnectAsync :=
  .locator ⟨hostname, ⟨projectName, .kLoginToken, ⟨loginToken⟩⟩⟩ deploymentId parameters
    (queueStatusCallback parameters.workerType)

/-- The port is an `int` at the call site; the parameter is 16 bits wide. -/
def connectWithReceptionist (hostname : String) (port : ℤ) (workerId : String)
    (parameters : ConnectionParameters) : ConnectAsync :=
  .connection hostname (BitVec.ofInt 16 port) workerId parameters

def charset : List Char :=
  ("0123456789" ++ "ABCDEFGHIJKLMNOPQRSTUVWXYZ" ++ "abcdefghijklmnopqrstuvwxyz").toList

theorem length_charset : charset.length = 62 := by decide

/-- `charset[std::rand() % max_index]`, given what `std::rand` returns. -/
def randchar (draw : ℕ) : Char :=
  charset.get ⟨draw % 62, by rw [length_charset]; omega⟩

def getRandomCharacters (rand : ℕ → ℕ) (count : ℕ) : String :=
  String.ofList ((List.range count).map fun i => randchar (rand i))

theorem length_getRandomCharacters (rand : ℕ → ℕ) (count : ℕ) :
    (getRandomCharacters rand count).length = count := by
  simp [getRandomCharacters]

theorem mem_getRandomCharacters {rand : ℕ → ℕ} {count : ℕ} {c : Char}
    (h : c ∈ (getRandomCharacters rand count).toList) : c ∈ charset := by
  rw [getRandomCharacters, String.toList_ofList] at h
  obtain ⟨i, -, rfl⟩ := List.mem_map.mp h
  exact List.get_mem _ _

/-- What `main` does up to the connection: it returns, or it connects. -/
inductive Next
  | returned (status : ℤ)
  | connect (call : ConnectAsync)

/-- The lines written and what comes after them. -/
structure Launch where
  output : List Event
  next : Next

def printLines (lines : List String) : List Event := lines.map (.write .stdout)

namespace Managed

def printUsage : List Event := printLines [
  "Usage: Managed receptionist <hostname> <port> <worker_id>",
  "",
  "Connects to SpatialOS",
  "    <hostname>      - hostname of the receptionist or locator to connect to.",
  "    <port>          - port to use if connecting through the receptionist.",
  "    <worker_id>     - (optional) name of the worker assigned by SpatialOS.",
  ""]

def parameters : ConnectionParameters := ⟨"Managed", ⟨false, .kTcp⟩⟩

/-- `main` on the arguments behind `argv[0]`. -/
def launch (undefined : String → ℤ) (rand : ℕ → ℕ) (args : List String) : Launch :=
  let started := printLines ["[local] Worker started "]
  let arguments := if args = [] then ["receptionist", "localhost", "7777"] else args
  if arguments.length ≠ 4 ∧ arguments.length ≠ 3 then
    ⟨started ++ printUsage, .returned errorExitStatus⟩
  else
    let workerId :=
      if arguments.length = 4 then arguments.getD 3 ""
      else parameters.workerType ++ "_" ++ getRandomCharacters rand 4
    ⟨started ++ printLines ["[local] Connecting to SpatialOS as " ++ workerId ++ "..."],
      .connect (connectWithReceptionist (arguments.getD 1 "")
        (atoi undefined (arguments.getD 2 "")) workerId parameters)⟩

/-- The usage and the error status, or one line and a connection. -/
theorem launch_cases (undefined : String → ℤ) (rand : ℕ → ℕ) (args : List String) :
    launch undefined rand args =
        ⟨printLines ["[local] Worker started "] ++ printUsage, .returned errorExitStatus⟩ ∨
      ∃ workerId call, launch undefined rand args =
        ⟨printLines ["[local] Worker started "] ++
          printLines ["[local] Connecting to SpatialOS as " ++ workerId ++ "..."],
          .connect call⟩ := by
  unfold launch
  dsimp only
  generalize (if args = [] then _ else args) = arguments
  split_ifs
  · exact Or.inl rfl
  · exact Or.inr ⟨_, _, rfl⟩
  · exact Or.inr ⟨_, _, rfl⟩

end Managed

namespace External

def printUsage : List Event := printLines [
  "Usage: External receptionist <hostname> <port> <worker_id>",
  "       External locator <hostname> <project_name> <deployment_id> <login_token>",
  "Connects to SpatialOS",
  "    <hostname>       - hostname of the receptionist or locator to connect to.",
  "    <port>           - port to use if connecting through the receptionist.",
  "    <worker_id>      - name of the worker assigned by SpatialOS.",
  "    <project_name>   - name of the project to run.",
  "    <deployment_id>  - name of the cloud deployment to run.",
  "    <login_token>   - token to use when connecting through the locator."]

def parameters : ConnectionParameters := ⟨"External", ⟨true, .kTcp⟩⟩

def launch (undefined : String → ℤ) (rand : ℕ → ℕ) (args : List String) : Launch :=
  let arguments :=
    if args = [] then
      ["receptionist", "localhost", "7777",
        parameters.workerType ++ "_" ++ getRandomCharacters rand 4]
    else args
  let connectionType := arguments.getD 0 ""
  if connectionType ≠ "receptionist" ∧ connectionType ≠ "locator" then
    ⟨printUsage, .returned errorExitStatus⟩
  else
    let useLocator := connectionType = "locator"
    if (useLocator ∧ arguments.length ≠ 5) ∨ (¬ useLocator ∧ arguments.length ≠ 4) then
      ⟨printUsage, .returned errorExitStatus⟩
    else
      let call :=
        if useLocator then
          connectWithLocator (arguments.getD 1 "") (arguments.getD 2 "") (arguments.getD 3 "")
            (arguments.getD 4 "") parameters
        else
          connectWithReceptionist (arguments.getD 1 "") (atoi undefined (arguments.getD 2 ""))
            (arguments.getD 3 "") parameters
      ⟨[], .connect call⟩

/-- The usage and the error status, or a connection. -/
theorem launch_cases (undefined : String → ℤ) (rand : ℕ → ℕ) (args : List String) :
    launch undefined rand args = ⟨printUsage, .returned errorExitStatus⟩ ∨
      ∃ call, launch undefined rand args = ⟨[], .connect call⟩ := by
  unfold launch
  dsimp only
  generalize (if args = [] then _ else args) = arguments
  split_ifs
  · exact Or.inl rfl
  · exact Or.inl rfl
  · exact Or.inr ⟨_, rfl⟩
  · exact Or.inr ⟨_, rfl⟩

end External

/-- What a command line asks for; a worker id that is left out is generated. -/
inductive Request
  | receptionist (hostname : String) (port : ℕ) (workerId : Option String)
  | locator (hostname projectName deploymentId loginToken : String)
  deriving DecidableEq, Repr

/-- The port that a string denotes: a decimal numeral of at most 65535. -/
def port? (s : String) : Option ℕ := (numeral? s).filter (· ≤ 65535)

def receptionistRequest (hostname port : String) (workerId : Option String) : Option Request :=
  (port? port).map fun port => .receptionist hostname port workerId

/-- The command lines of the usage of `Managed`. -/
def Managed.request? : List String → Option Request
  | [] => receptionistRequest "localhost" "7777" none
  | [mode, hostname, port] =>
    if mode = "receptionist" then receptionistRequest hostname port none else none
  | [mode, hostname, port, workerId] =>
    if mode = "receptionist" then receptionistRequest hostname port (some workerId) else none
  | _ => none

/-- The command lines of the usage of `External`. -/
def External.request? : List String → Option Request
  | [] => receptionistRequest "localhost" "7777" none
  | [mode, hostname, port, workerId] =>
    if mode = "receptionist" then receptionistRequest hostname port (some workerId) else none
  | [mode, hostname, projectName, deploymentId, loginToken] =>
    if mode = "locator" then some (.locator hostname projectName deploymentId loginToken) else none
  | _ => none

/-- The worker id asked for, or one made of the worker type and four random
characters. -/
def WorkerIdServes (workerType workerId : String) : Option String → Prop
  | some workerId' => workerId = workerId'
  | none => ∃ suffix, workerId = workerType ++ "_" ++ suffix ∧ suffix.length = 4 ∧
      ∀ c ∈ suffix.toList, c ∈ charset

/-- The call hands on what was asked for, each value in its own role. -/
def ConnectAsync.Serves (parameters : ConnectionParameters) : ConnectAsync → Request → Prop
  | .connection hostname port workerId parameters', .receptionist hostname' port' workerId' =>
    hostname = hostname' ∧ port.toNat = port' ∧ parameters' = parameters ∧
      WorkerIdServes parameters.workerType workerId workerId'
  | .locator ⟨hostname, ⟨projectName, credentialsType, ⟨token⟩⟩⟩ deploymentName parameters' _,
      .locator hostname' projectName' deploymentId loginToken =>
    hostname = hostname' ∧ projectName = projectName' ∧ deploymentName = deploymentId ∧
      credentialsType = .kLoginToken ∧ token = loginToken ∧ parameters' = parameters
  | _, _ => False

/-- The worker connects to exactly what the usage says the command line asks
for, and on any other command line prints its usage and returns the error
status. -/
def Launch.Conforms (usage : List Event) (parameters : ConnectionParameters) (launch : Launch) :
    Option Request → Prop
  | some request => ∃ call, launch.next = .connect call ∧ call.Serves parameters request
  | none => launch.next = .returned errorExitStatus ∧ usage <:+ launch.output

/-- The port of a receptionist connection that is attempted. -/
def Launch.reachedPort? (launch : Launch) : Option (BitVec 16) :=
  match launch.next with
  | .connect (.connection _ port _ _) => some port
  | _ => none

/-- The string that stands for the port of a receptionist. -/
def portArgument (args : List String) : String := args.getD 2 "7777"

section Conformance

variable {undefined : String → ℤ} {rand : ℕ → ℕ} {usage output : List Event}
  {parameters : ConnectionParameters}

theorem port?_eq_some {s : String} {p : ℕ} :
    port? s = some p ↔ numeral? s = some p ∧ p ≤ 65535 := by
  simp [port?, Option.filter_eq_some_iff]

/-- A port that the usage allows arrives as it is. -/
theorem toNat_port {s : String} {p : ℕ} (h : port? s = some p) :
    (BitVec.ofInt 16 (atoi undefined s)).toNat = p := by
  obtain ⟨hnumeral, hp⟩ := port?_eq_some.mp h
  have hint : (p : ℤ) ≤ INT_MAX := by
    unfold INT_MAX
    omega
  rw [narrow_atoi 16 hnumeral hint]
  omega

theorem conforms_usage (started : List Event) :
    Launch.Conforms usage parameters ⟨started ++ usage, .returned errorExitStatus⟩ none :=
  ⟨rfl, List.suffix_append started usage⟩

theorem not_conforms_connect {call : ConnectAsync} :
    ¬ Launch.Conforms usage parameters ⟨output, .connect call⟩ none := by
  rintro ⟨hnext, -⟩
  cases hnext

/-- A receptionist connection conforms exactly when its port is one. -/
theorem conforms_receptionist_iff {hostname port workerId : String} {workerId' : Option String}
    (hid : WorkerIdServes parameters.workerType workerId workerId') :
    Launch.Conforms usage parameters
        ⟨output, .connect
          (connectWithReceptionist hostname (atoi undefined port) workerId parameters)⟩
        (receptionistRequest hostname port workerId') ↔ (port? port).isSome = true := by
  unfold receptionistRequest
  cases hport : port? port with
  | none => simp [not_conforms_connect]
  | some p =>
    have hserves : (connectWithReceptionist hostname (atoi undefined port) workerId
        parameters).Serves parameters (.receptionist hostname p workerId') :=
      ⟨rfl, toNat_port hport, rfl, hid⟩
    simpa [Launch.Conforms] using hserves

theorem workerIdServes_generated (rand : ℕ → ℕ) (workerType : String) :
    WorkerIdServes workerType (workerType ++ "_" ++ getRandomCharacters rand 4) none :=
  ⟨getRandomCharacters rand 4, rfl, length_getRandomCharacters rand 4,
    fun _ hc => mem_getRandomCharacters hc⟩

end Conformance

/-- Where `Managed` takes a connection to be asked for, one is. -/
def Managed.WellFormed : List String → Prop
  | [mode, _, port] => mode = "receptionist" ∧ (port? port).isSome = true
  | [mode, _, port, _] => mode = "receptionist" ∧ (port? port).isSome = true
  | _ => True

/-- Where `External` takes a receptionist to be asked for, the port is one. -/
def External.WellFormed : List String → Prop
  | [mode, _, port, _] => mode = "receptionist" → (port? port).isSome = true
  | _ => True

theorem port?_default : (port? "7777").isSome = true := by decide

theorem Managed.conforms_iff (undefined : String → ℤ) (rand : ℕ → ℕ) (args : List String) :
    (launch undefined rand args).Conforms printUsage parameters (request? args) ↔
      WellFormed args := by
  match args with
  | [] =>
    refine iff_of_true ?_ trivial
    exact (conforms_receptionist_iff (workerIdServes_generated rand _)).mpr port?_default
  | [_] => exact iff_of_true (conforms_usage _) trivial
  | [_, _] => exact iff_of_true (conforms_usage _) trivial
  | [mode, hostname, port] =>
    by_cases hmode : mode = "receptionist"
    · subst hmode
      simp only [request?, if_pos, WellFormed, true_and]
      exact conforms_receptionist_iff (workerIdServes_generated rand _)
    · simp only [request?, WellFormed, hmode, false_and, iff_false]
      exact not_conforms_connect
  | [mode, hostname, port, workerId] =>
    by_cases hmode : mode = "receptionist"
    · subst hmode
      simp only [request?, if_pos, WellFormed, true_and]
      exact conforms_receptionist_iff rfl
    · simp only [request?, WellFormed, hmode, false_and, iff_false]
      exact not_conforms_connect
  | _ :: _ :: _ :: _ :: _ :: _ => exact iff_of_true (conforms_usage _) trivial

theorem External.launch_receptionist (undefined : String → ℤ) (rand : ℕ → ℕ)
    (hostname port workerId : String) :
    launch undefined rand ["receptionist", hostname, port, workerId] =
      ⟨[], .connect (connectWithReceptionist hostname (atoi undefined port) workerId
        parameters)⟩ := rfl

theorem External.launch_locator (undefined : String → ℤ) (rand : ℕ → ℕ)
    (hostname projectName deploymentId loginToken : String) :
    launch undefined rand ["locator", hostname, projectName, deploymentId, loginToken] =
      ⟨[], .connect (connectWithLocator hostname projectName deploymentId loginToken
        parameters)⟩ := rfl

/-- Any other mode or number of arguments gets the usage. -/
theorem External.launch_usage (undefined : String → ℤ) (rand : ℕ → ℕ) {mode : String}
    {rest : List String} (hreceptionist : mode = "receptionist" → rest.length ≠ 3)
    (hlocator : mode = "locator" → rest.length ≠ 4) :
    launch undefined rand (mode :: rest) = ⟨printUsage, .returned errorExitStatus⟩ := by
  unfold launch
  by_cases hloc : mode = "locator"
  · have hlength := hlocator hloc
    simp [hloc, hlength]
  · by_cases hrec : mode = "receptionist"
    · have hlength := hreceptionist hrec
      simp [hrec, hlength]
    · simp [hloc, hrec]

theorem External.conforms_iff (undefined : String → ℤ) (rand : ℕ → ℕ) (args : List String) :
    (launch undefined rand args).Conforms printUsage parameters (request? args) ↔
      WellFormed args := by
  have husage : Launch.Conforms printUsage parameters ⟨printUsage, .returned errorExitStatus⟩
      none := conforms_usage []
  match args with
  | [] =>
    refine iff_of_true ?_ trivial
    exact (conforms_receptionist_iff (workerIdServes_generated rand _)).mpr port?_default
  | [mode, hostname, port, workerId] =>
    by_cases hmode : mode = "receptionist"
    · subst hmode
      simp only [request?, if_pos, WellFormed, true_imp_iff, launch_receptionist]
      exact conforms_receptionist_iff rfl
    · simp only [request?, WellFormed, hmode, false_imp_iff, iff_true, if_false]
      rw [launch_usage undefined rand (fun h => absurd h hmode) (by simp)]
      exact husage
  | [mode, hostname, projectName, deploymentId, loginToken] =>
    refine iff_of_true ?_ trivial
    by_cases hmode : mode = "locator"
    · subst hmode
      rw [launch_locator]
      exact ⟨_, rfl, rfl, rfl, rfl, rfl, rfl, rfl⟩
    · simp only [request?, hmode, if_false]
      rw [launch_usage undefined rand (by simp) (fun h => absurd h hmode)]
      exact husage
  | [_] | [_, _] | [_, _, _] | _ :: _ :: _ :: _ :: _ :: _ :: _ =>
    refine iff_of_true ?_ trivial
    rw [launch_usage undefined rand (by simp) (by simp)]
    exact husage

/-- A launch that conforms reaches the port of its request and no other. -/
theorem Launch.request_of_conforms {usage : List Event} {parameters : ConnectionParameters}
    {launch : Launch} {request : Option Request} {p : BitVec 16}
    (h : launch.Conforms usage parameters request) (hport : launch.reachedPort? = some p) :
    ∃ hostname workerId, request = some (.receptionist hostname p.toNat workerId) := by
  obtain ⟨output, next⟩ := launch
  cases request with
  | none =>
    obtain rfl : next = .returned errorExitStatus := h.1
    cases hport
  | some request =>
    obtain ⟨call, hnext, hserves⟩ := h
    obtain rfl : next = .connect call := hnext
    cases call with
    | locator locator deploymentName parameters' callback => cases hport
    | connection hostname port workerId parameters' =>
      obtain rfl : port = p := Option.some.inj hport
      cases request with
      | receptionist hostname' port' workerId' =>
        obtain ⟨-, rfl, -⟩ := hserves
        exact ⟨hostname', workerId', rfl⟩
      | locator hostname' projectName deploymentId loginToken => exact hserves.elim

theorem port?_of_receptionistRequest {s hostname hostname' : String} {p : ℕ}
    {workerId workerId' : Option String}
    (h : receptionistRequest hostname s workerId = some (.receptionist hostname' p workerId')) :
    port? s = some p := by
  unfold receptionistRequest at h
  obtain ⟨p', hp', heq⟩ := Option.map_eq_some_iff.mp h
  obtain ⟨-, rfl, -⟩ := Request.receptionist.inj heq
  exact hp'

theorem Managed.port?_of_request {args : List String} {hostname : String} {p : ℕ}
    {workerId : Option String} (h : request? args = some (.receptionist hostname p workerId)) :
    port? (portArgument args) = some p := by
  unfold request? at h
  split at h
  · exact port?_of_receptionistRequest h
  · split_ifs at h
    exact port?_of_receptionistRequest h
  · split_ifs at h
    exact port?_of_receptionistRequest h
  · cases h

theorem External.port?_of_request {args : List String} {hostname : String} {p : ℕ}
    {workerId : Option String} (h : request? args = some (.receptionist hostname p workerId)) :
    port? (portArgument args) = some p := by
  unfold request? at h
  split at h
  · exact port?_of_receptionistRequest h
  · split_ifs at h
    exact port?_of_receptionistRequest h
  · split_ifs at h
    cases h
  · cases h

/-- Exactly when the workers keep to their usage. Where they do, a port that is
reached is the number its string denotes. -/
theorem launch_conforms_iff (undefined : String → ℤ) (rand : ℕ → ℕ) (args : List String) :
    ((Managed.launch undefined rand args).Conforms Managed.printUsage Managed.parameters
        (Managed.request? args) ↔ Managed.WellFormed args) ∧
    ((External.launch undefined rand args).Conforms External.printUsage External.parameters
        (External.request? args) ↔ External.WellFormed args) ∧
    (Managed.WellFormed args → ∀ p, (Managed.launch undefined rand args).reachedPort? = some p →
      port? (portArgument args) = some p.toNat) ∧
    (External.WellFormed args → ∀ p, (External.launch undefined rand args).reachedPort? = some p →
      port? (portArgument args) = some p.toNat) := by
  have hmanaged := Managed.conforms_iff undefined rand args
  have hexternal := External.conforms_iff undefined rand args
  refine ⟨hmanaged, hexternal, ?_, ?_⟩
  · intro hargs p hport
    obtain ⟨hostname, workerId, hrequest⟩ := Launch.request_of_conforms (hmanaged.mpr hargs) hport
    exact Managed.port?_of_request hrequest
  · intro hargs p hport
    obtain ⟨hostname, workerId, hrequest⟩ := Launch.request_of_conforms (hexternal.mpr hargs) hport
    exact External.port?_of_request hrequest

/-- `Managed` connects in a mode that does not exist, and `External` reaches
one port from two numbers. -/
theorem launch_accepts_more :
    ¬ (Managed.launch (fun _ => 0) (fun _ => 0) ["locatr", "localhost", "7777"]).Conforms
        Managed.printUsage Managed.parameters
        (Managed.request? ["locatr", "localhost", "7777"]) ∧
    (External.launch (fun _ => 0) (fun _ => 0)
      ["receptionist", "localhost", "70000", "w"]).reachedPort? = some 4464 ∧
    (External.launch (fun _ => 0) (fun _ => 0)
      ["receptionist", "localhost", "4464", "w"]).reachedPort? = some 4464 := by
  refine ⟨?_, by decide, by decide⟩
  rintro ⟨hnext, -⟩
  cases hnext

end SpatialWorkers
