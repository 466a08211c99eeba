import Mathlib.Data.List.Dedup
import Mathlib.Data.List.TakeWhile
import SpatialWorkers.ArrayStores
import SpatialWorkers.Doubles
import SpatialWorkers.InsertionMaps
import SpatialWorkers.Pbio

/-!
# Metrics of a worker

A histogram counts observations by bucket. `SendMetrics` lays the metrics of a
worker out in C arrays, where all histograms share one array of buckets, and
then clears the observations.
-/
namespace SpatialWorkers
open ArrayStores Doubles InsertionMaps Pbio

/-- `Samples` is a `std::uint32_t`. -/
structure Bucket where
  upperBound : Double
  samples : BitVec 32
  deriving DecidableEq, Inhabited, Repr

structure HistogramMetric where
  buckets : List Bucket
  sum : Double
  deriving DecidableEq, Repr

namespace HistogramMetric

def new (bucketBoundaries : List Double) : HistogramMetric :=
  let (hasInfinity, buckets) := bucketBoundaries.foldl
    (fun (hasInfinity, buckets) le => (hasInfinity || le.eq .infinity, buckets ++ [⟨le, 0⟩]))
    (false, [])
  ⟨if hasInfinity then buckets else buckets ++ [⟨.infinity, 0⟩], 0⟩

def clearObservations (h : HistogramMetric) : HistogramMetric :=
  ⟨h.buckets.map fun bucket => { bucket with samples := 0 }, 0⟩

variable (add : Double → Double → Double)

/-- `add` is `+` of doubles. -/
def recordObservation (h : HistogramMetric) (value : Double) : HistogramMetric :=
  ⟨h.buckets.map fun bucket =>
    if value.le bucket.upperBound then { bucket with samples := bucket.samples + 1 } else bucket,
    add h.sum value⟩

def upperBounds (h : HistogramMetric) : List Double := h.buckets.map Bucket.upperBound

/-- A boundary of infinity is appended when there is none. -/
theorem buckets_new (bucketBoundaries : List Double) :
    (new bucketBoundaries).buckets =
      (if bucketBoundaries.any (Double.eq · .infinity) then bucketBoundaries
        else bucketBoundaries ++ [.infinity]).map fun le => ⟨le, 0⟩ := by
  have hloop : ∀ (boundaries : List Double) (hasInfinity : Bool) (buckets : List Bucket),
      boundaries.foldl (fun (hasInfinity, buckets) le =>
          (hasInfinity || Double.eq le .infinity, buckets ++ [(⟨le, 0⟩ : Bucket)]))
        (hasInfinity, buckets) =
      (hasInfinity || boundaries.any (Double.eq · .infinity),
        buckets ++ boundaries.map fun le => ⟨le, 0⟩) := by
    intro boundaries
    induction boundaries with
    | nil => simp
    | cons le boundaries ih =>
      intro hasInfinity buckets
      rw [List.foldl_cons, ih]
      simp [Bool.or_assoc]
  rw [new, hloop]
  simp only [Bool.false_or, List.nil_append]
  split_ifs <;> simp

theorem upperBounds_new (bucketBoundaries : List Double) :
    (new bucketBoundaries).upperBounds =
      if bucketBoundaries.any (Double.eq · .infinity) then bucketBoundaries
      else bucketBoundaries ++ [.infinity] := by
  rw [upperBounds, buckets_new, List.map_map]
  exact List.map_id _

@[simp] theorem upperBounds_clearObservations (h : HistogramMetric) :
    h.clearObservations.upperBounds = h.upperBounds := by
  rw [upperBounds, clearObservations, List.map_map]
  rfl

@[simp] theorem upperBounds_recordObservation (h : HistogramMetric) (value : Double) :
    (h.recordObservation add value).upperBounds = h.upperBounds := by
  rw [upperBounds, recordObservation, List.map_map]
  apply List.map_congr_left
  intro bucket _
  simp only [Function.comp_apply]
  split_ifs <;> rfl

/-- The histogram shows these observations, up to the width of the counters. -/
structure Shows (h : HistogramMetric) (observations : List Double) : Prop where
  samples : ∀ bucket ∈ h.buckets,
    bucket.samples = BitVec.ofNat 32 (observations.countP fun value => value.le bucket.upperBound)
  sum : h.sum = observations.foldl add 0

variable {add}

theorem shows_new (bucketBoundaries : List Double) : (new bucketBoundaries).Shows add [] := by
  refine ⟨fun bucket hbucket => ?_, rfl⟩
  rw [buckets_new] at hbucket
  obtain ⟨le, -, rfl⟩ := List.mem_map.mp hbucket
  rfl

theorem shows_clearObservations (h : HistogramMetric) : h.clearObservations.Shows add [] := by
  refine ⟨fun bucket hbucket => ?_, rfl⟩
  obtain ⟨b, -, rfl⟩ := List.mem_map.mp hbucket
  rfl

theorem Shows.recordObservation {h : HistogramMetric} {observations : List Double}
    (hshows : h.Shows add observations) (value : Double) :
    (h.recordObservation add value).Shows add (observations ++ [value]) := by
  refine ⟨fun bucket hbucket => ?_, ?_⟩
  · obtain ⟨b, hb, rfl⟩ := List.mem_map.mp hbucket
    have hsamples := hshows.samples b hb
    by_cases hle : value.le b.upperBound = true
    · simp only [hle, if_true, List.countP_append, List.countP_singleton, hsamples,
        BitVec.ofNat_add]
      rfl
    · have hcount : ([value].countP fun value => value.le b.upperBound) = 0 := by simp [hle]
      rw [if_neg hle, List.countP_append, hcount, hsamples]
      rfl
  · rw [List.foldl_append, List.foldl_cons, List.foldl_nil, ← hshows.sum]
    rfl

/-- What is done to a histogram. -/
inductive Action
  | record (value : Double)
  | clear

def act (add : Double → Double → Double) (h : HistogramMetric) : Action → HistogramMetric
  | .record value => h.recordObservation add value
  | .clear => h.clearObservations

/-- The values recorded since the observations were last cleared. -/
def observations (actions : List Action) : List Double :=
  actions.foldl (fun values action =>
    match action with
    | .record value => values ++ [value]
    | .clear => []) []

theorem upperBounds_foldl (add : Double → Double → Double) (h : HistogramMetric)
    (actions : List Action) : (actions.foldl (act add) h).upperBounds = h.upperBounds := by
  induction actions generalizing h with
  | nil => rfl
  | cons action actions ih =>
    rw [List.foldl_cons, ih]
    cases action with
    | record value => exact upperBounds_recordObservation add h value
    | clear => exact upperBounds_clearObservations h

theorem shows_foldl (bucketBoundaries : List Double) (actions : List Action) :
    (actions.foldl (act add) (new bucketBoundaries)).Shows add (observations actions) := by
  induction actions using List.reverseRecOn with
  | nil => exact shows_new bucketBoundaries
  | append_singleton actions action ih =>
    rw [List.foldl_append, observations, List.foldl_append]
    cases action with
    | record value => exact ih.recordObservation value
    | clear => exact shows_clearObservations _

/-- After any calls, each bucket counts the observations up to its bound since
the last clearing, modulo `2 ^ 32`. The bounds are those given and infinity, so
that one bucket counts all the observations that are numbers. -/
theorem shows_of_run (add : Double → Double → Double) (bucketBoundaries : List Double)
    (actions : List Action) :
    (actions.foldl (act add) (new bucketBoundaries)).Shows add (observations actions) ∧
      (actions.foldl (act add) (new bucketBoundaries)).upperBounds =
        (if bucketBoundaries.any (Double.eq · .infinity) then bucketBoundaries
          else bucketBoundaries ++ [.infinity]) ∧
      ∃ bucket ∈ (actions.foldl (act add) (new bucketBoundaries)).buckets, bucket.samples =
        BitVec.ofNat 32 ((observations actions).countP fun value => !value.isNaN) := by
  have hshows := @shows_foldl add bucketBoundaries actions
  have hbounds := (upperBounds_foldl add (new bucketBoundaries) actions).trans
    (upperBounds_new bucketBoundaries)
  refine ⟨hshows, hbounds, ?_⟩
  have hinfinity : ∃ bound ∈ (actions.foldl (act add) (new bucketBoundaries)).upperBounds,
      Double.eq bound .infinity = true := by
    rw [hbounds]
    split_ifs with hany
    · exact List.any_eq_true.mp hany
    · exact ⟨.infinity, by simp, by decide⟩
  obtain ⟨bound, hbound, heq⟩ := hinfinity
  obtain ⟨bucket, hbucket, rfl⟩ := List.mem_map.mp hbound
  refine ⟨bucket, hbucket, (hshows.samples bucket hbucket).trans ?_⟩
  refine congrArg _ (List.countP_congr fun value _ => ?_)
  rw [Double.le_of_eq_infinity heq]
  cases hnan : value.isNaN with
  | false => simp [Double.le_infinity hnan]
  | true => simp [Double.le, hnan]

end HistogramMetric

/-- The keys are names of metrics. -/
structure Metrics where
  load : Option Double
  gaugeMetrics : InsertionMap String Double
  histogramMetrics : InsertionMap String HistogramMetric
  deriving DecidableEq, Repr

namespace Metrics

def new : Metrics := ⟨none, .empty, .empty⟩

def merge (m metrics : Metrics) : Metrics where
  load := metrics.load.or m.load
  gaugeMetrics := metrics.gaugeMetrics.entries.foldl
    (fun gauges pair => gauges.assign pair.1 pair.2) m.gaugeMetrics
  histogramMetrics := metrics.histogramMetrics.entries.foldl
    (fun histograms pair => histograms.assign pair.1 pair.2) m.histogramMetrics

end Metrics

/-- A report of the built-in metrics, as a callback receives it. -/
structure MetricsOp where
  metrics : Metrics
  deriving DecidableEq, Repr

/-! ## The C structs -/

/-- What is read at `s.c_str()`. -/
def cStr (s : String) : String := String.ofList (s.toList.takeWhile fun c => c ≠ Char.ofNat 0)

/-- The name survives the way through a C string. -/
def IsCString (s : String) : Prop := ∀ c ∈ s.toList, c ≠ Char.ofNat 0

theorem cStr_eq {s : String} (h : IsCString s) : cStr s = s := by
  rw [cStr, List.takeWhile_eq_self_iff.mpr (by simpa [IsCString] using h),
    String.ofList_toList]

structure ProtocolGaugeMetric where
  key : String
  value : Double
  deriving Inhabited

/-- `bucket` is the place of the first bucket in the array of all buckets. -/
structure ProtocolHistogramMetric where
  key : String
  sum : Double
  bucketCount : ℕ
  bucket : ℕ
  deriving Inhabited

/-- `bucketData` is the array that the histograms point into. -/
structure ProtocolMetrics where
  load : Option Double
  gaugeMetricCount : ℕ
  gaugeMetric : List ProtocolGaugeMetric
  histogramMetricCount : ℕ
  histogramMetric : List ProtocolHistogramMetric
  bucketData : List Bucket

/-- The histogram that a struct describes. -/
def ProtocolHistogramMetric.read (bucketData : List Bucket) (histogram : ProtocolHistogramMetric) :
    String × HistogramMetric :=
  (histogram.key, ⟨(bucketData.drop histogram.bucket).take histogram.bucketCount, histogram.sum⟩)

def ProtocolMetrics.histograms (m : ProtocolMetrics) : List (String × HistogramMetric) :=
  (m.histogramMetric.take m.histogramMetricCount).map
    (ProtocolHistogramMetric.read m.bucketData)

/-- The arrays that are being filled. -/
structure Layout where
  histogramData : List ProtocolHistogramMetric
  bucketData : List Bucket
  index : ℕ
  bucketIndex : ℕ

def Layout.addHistogram (layout : Layout) (pair : String × HistogramMetric) : Layout :=
  let histogram : ProtocolHistogramMetric :=
    ⟨cStr pair.1, pair.2.sum, pair.2.buckets.length % uint32Size, layout.bucketIndex⟩
  let (bucketData, bucketIndex) :=
    writeFrom layout.bucketData layout.bucketIndex pair.2.buckets
  ⟨layout.histogramData.set layout.index histogram, bucketData, layout.index + 1, bucketIndex⟩

def totalBucketCount (pairs : List (String × HistogramMetric)) : ℕ :=
  (pairs.map fun pair => pair.2.buckets.length).sum

/-- What `SendMetrics` hands to the C API, and what it leaves behind. -/
def sendMetrics (metrics : Metrics) : ProtocolMetrics × Metrics :=
  let gauges := metrics.gaugeMetrics.entries
  let histograms := metrics.histogramMetrics.entries
  let (gaugeData, _) := writeFrom (List.replicate gauges.length default) 0
    (gauges.map fun pair => ⟨cStr pair.1, pair.2⟩)
  let layout := histograms.foldl Layout.addHistogram
    ⟨List.replicate histograms.length default,
      List.replicate (totalBucketCount histograms) default, 0, 0⟩
  (⟨metrics.load, gauges.length % uint32Size, gaugeData, histograms.length % uint32Size,
      layout.histogramData, layout.bucketData⟩,
    { metrics with
      histogramMetrics := metrics.histogramMetrics.mapValues HistogramMetric.clearObservations })

/-- The wrapper that `HandleMetrics` makes for the callbacks; it has no
histograms, as there are none in the SDK itself. -/
def handleMetrics (op : ProtocolMetrics) : MetricsOp where
  metrics.load := none
  metrics.gaugeMetrics := (op.gaugeMetric.take op.gaugeMetricCount).foldl
    (fun gauges gauge => gauges.assign gauge.key gauge.value) .empty
  metrics.histogramMetrics := .empty

/-- The structs of some histograms, the first bucket being at `bucketIndex`. -/
def structs (bucketIndex : ℕ) : List (String × HistogramMetric) → List ProtocolHistogramMetric
  | [] => []
  | pair :: pairs =>
    ⟨cStr pair.1, pair.2.sum, pair.2.buckets.length % uint32Size, bucketIndex⟩ ::
      structs (bucketIndex + pair.2.buckets.length) pairs

theorem length_structs (bucketIndex : ℕ) (pairs : List (String × HistogramMetric)) :
    (structs bucketIndex pairs).length = pairs.length := by
  induction pairs generalizing bucketIndex with
  | nil => rfl
  | cons pair pairs ih => rw [structs, List.length_cons, ih, List.length_cons]

/-- The loops fill both arrays, from where they are on to their ends. -/
theorem foldl_addHistogram (pairs : List (String × HistogramMetric))
    (histogramData rest : List ProtocolHistogramMetric) (bucketData bucketRest : List Bucket)
    (hrest : rest.length = pairs.length)
    (hbucketRest : bucketRest.length = totalBucketCount pairs) :
    pairs.foldl Layout.addHistogram
        ⟨histogramData ++ rest, bucketData ++ bucketRest, histogramData.length,
          bucketData.length⟩ =
      ⟨histogramData ++ structs bucketData.length pairs,
        bucketData ++ pairs.flatMap fun pair => pair.2.buckets,
        histogramData.length + pairs.length, bucketData.length + totalBucketCount pairs⟩ := by
  induction pairs generalizing histogramData rest bucketData bucketRest with
  | nil =>
    obtain rfl := List.length_eq_zero_iff.mp hrest
    obtain rfl := List.length_eq_zero_iff.mp hbucketRest
    simp [structs, totalBucketCount]
  | cons pair pairs ih =>
    have htotal : totalBucketCount (pair :: pairs) =
        pair.2.buckets.length + totalBucketCount pairs := by
      rw [totalBucketCount, List.map_cons, List.sum_cons]
      rfl
    obtain ⟨a, rest, rfl⟩ := List.exists_cons_of_length_eq_add_one hrest
    rw [htotal] at hbucketRest ⊢
    have hwrite := writeFrom_append bucketData bucketRest pair.2.buckets (by omega)
    have hnext := ih
      (histogramData ++ [⟨cStr pair.1, pair.2.sum, pair.2.buckets.length % uint32Size,
        bucketData.length⟩]) rest (bucketData ++ pair.2.buckets)
      (bucketRest.drop pair.2.buckets.length) (by simpa using hrest)
      (by rw [List.length_drop]; omega)
    rw [List.foldl_cons, Layout.addHistogram, hwrite]
    simp only [List.set_append_right _ _ le_rfl, Nat.sub_self, List.set_cons_zero]
    simp only [List.length_append, List.length_singleton, List.append_assoc,
      List.singleton_append] at hnext
    rw [List.append_assoc, hnext]
    simp only [structs, List.flatMap_cons, List.length_cons, Layout.mk.injEq, true_and]
    omega

/-- The structs lead each to its own part of the array of buckets. -/
theorem map_structs {pairs : List (String × HistogramMetric)}
    (hkeys : ∀ pair ∈ pairs, IsCString pair.1)
    (hcounts : ∀ pair ∈ pairs, pair.2.buckets.length < uint32Size) (before : List Bucket) :
    (structs before.length pairs).map (ProtocolHistogramMetric.read
      (before ++ pairs.flatMap fun pair => pair.2.buckets)) = pairs := by
  induction pairs generalizing before with
  | nil => rfl
  | cons pair pairs ih =>
    have hrest := ih (fun p hp => hkeys p (List.mem_cons_of_mem _ hp))
      (fun p hp => hcounts p (List.mem_cons_of_mem _ hp)) (before ++ pair.2.buckets)
    rw [List.length_append, List.append_assoc] at hrest
    rw [structs, List.map_cons, List.flatMap_cons, hrest]
    refine congrArg (· :: pairs) (Prod.ext (cStr_eq (hkeys pair List.mem_cons_self)) ?_)
    simp [ProtocolHistogramMetric.read, Nat.mod_eq_of_lt (hcounts pair List.mem_cons_self)]

/-- Whatever is sent fits into C strings and 32-bit counts. -/
structure Metrics.HistogramsFit (m : Metrics) : Prop where
  count : m.histogramMetrics.entries.length < uint32Size
  keys : ∀ pair ∈ m.histogramMetrics.entries, IsCString pair.1
  counts : ∀ pair ∈ m.histogramMetrics.entries, pair.2.buckets.length < uint32Size

structure Metrics.GaugesFit (m : Metrics) : Prop where
  count : m.gaugeMetrics.entries.length < uint32Size
  keys : ∀ pair ∈ m.gaugeMetrics.entries, IsCString pair.1

theorem histograms_sendMetrics {m : Metrics} (h : m.HistogramsFit) :
    (sendMetrics m).1.histograms = m.histogramMetrics.entries := by
  have hfill := foldl_addHistogram m.histogramMetrics.entries []
    (List.replicate m.histogramMetrics.entries.length default) []
    (List.replicate (totalBucketCount m.histogramMetrics.entries) default) (by simp) (by simp)
  have hread := map_structs h.keys h.counts []
  simp only [List.nil_append, List.length_nil] at hfill hread
  rw [ProtocolMetrics.histograms, sendMetrics, hfill]
  simp only [Nat.mod_eq_of_lt h.count]
  rw [List.take_of_length_le (length_structs _ _).le]
  exact hread

theorem handleMetrics_sendMetrics {m : Metrics} (h : m.GaugesFit) :
    (handleMetrics (sendMetrics m).1).metrics = ⟨none, m.gaugeMetrics, .empty⟩ := by
  have hwrite := writeFrom_append []
    (List.replicate m.gaugeMetrics.entries.length (default : ProtocolGaugeMetric))
    (m.gaugeMetrics.entries.map fun pair => ⟨cStr pair.1, pair.2⟩) (by simp)
  have hgauges : m.gaugeMetrics.entries.map (fun pair => (⟨cStr pair.1, pair.2⟩ :
      ProtocolGaugeMetric)) = m.gaugeMetrics.entries.map fun pair => ⟨pair.1, pair.2⟩ :=
    List.map_congr_left fun pair hpair => by rw [cStr_eq (h.keys pair hpair)]
  have hassign := InsertionMap.entries_foldl_assign m.gaugeMetrics.nodup (m := .empty) (by simp)
  rw [handleMetrics, sendMetrics]
  rw [hgauges] at hwrite
  simp only [List.nil_append, List.length_nil] at hwrite
  simp only [hgauges, hwrite, Nat.mod_eq_of_lt h.count]
  simp only [List.length_map, List.drop_replicate, Nat.sub_self, List.replicate_zero,
    List.append_nil]
  rw [List.take_of_length_le (List.length_map _).le, List.foldl_map]
  exact congrArg (Metrics.mk none · .empty) (InsertionMap.ext_entries hassign)

/-- What is sent can be read back from the C structs, each histogram with its
own buckets out of the array that all of them share. -/
theorem sendMetrics_reads {m : Metrics} (hgauges : m.GaugesFit) (hhistograms : m.HistogramsFit) :
    (sendMetrics m).1.load = m.load ∧
      (handleMetrics (sendMetrics m).1).metrics = ⟨none, m.gaugeMetrics, .empty⟩ ∧
      (sendMetrics m).1.histograms = m.histogramMetrics.entries :=
  ⟨rfl, handleMetrics_sendMetrics hgauges, histograms_sendMetrics hhistograms⟩

theorem sendMetrics_reads_shared :
    (sendMetrics ⟨none, .empty,
        InsertionMap.empty.insert [("a", .new [0]), ("b", .new [])]⟩).1.histograms =
      [("a", .new [0]), ("b", .new [])] := by
  have hentries : (InsertionMap.empty.insert
      [("a", HistogramMetric.new [0]), ("b", .new [])]).entries =
      [("a", .new [0]), ("b", .new [])] := InsertionMap.entries_insert (by decide) (by simp)
  refine (sendMetrics_reads (m := ⟨none, .empty,
      InsertionMap.empty.insert [("a", .new [0]), ("b", .new [])]⟩)
    ⟨by simp [uint32Size], by simp⟩ ⟨?_, ?_, ?_⟩).2.2.trans hentries
  · rw [hentries]
    simp [uint32Size]
  · rw [hentries]
    simp [IsCString]
  · rw [hentries]
    have hfinite : Double.eq 0#64 .infinity = false := by decide
    simp [HistogramMetric.buckets_new, uint32Size, hfinite]

/-! ## Reports of a worker -/

/-- A worker's metrics, and the messages it has sent. -/
structure Reporter where
  metrics : Metrics
  sent : List ProtocolMetrics

namespace Reporter

def new : Reporter := ⟨.new, []⟩

/-- What a worker does with its metrics: enter, record, set, merge what the SDK
reports, and send. -/
inductive Action
  | addHistogram (key : String) (bucketBoundaries : List Double)
  | record (key : String) (value : Double)
  | setGauge (key : String) (value : Double)
  | setLoad (value : Double)
  | mergeBuiltIn (op : ProtocolMetrics)
  | send

def Action.Fits : Action → Prop
  | .addHistogram key bucketBoundaries =>
    IsCString key ∧ bucketBoundaries.length + 1 < uint32Size
  | .record key _ => IsCString key
  | _ => True

/-- The name of the histogram that an action enters or records in. -/
def Action.histogram : Action → Option String
  | .addHistogram key _ => some key
  | .record key _ => some key
  | _ => none

/-- The observation that is recorded under a key. -/
def Action.observes (key : String) : Action → Option Double
  | .record key' value => if key' = key then some value else none
  | _ => none

variable (add : Double → Double → Double)

def act (r : Reporter) : Action → Reporter
  | .addHistogram key bucketBoundaries =>
    { r with metrics.histogramMetrics :=
        r.metrics.histogramMetrics.emplace key (.new bucketBoundaries) }
  | .record key value =>
    let histogram := (r.metrics.histogramMetrics.find key).getD (.new [])
    { r with metrics.histogramMetrics :=
        r.metrics.histogramMetrics.assign key (histogram.recordObservation add value) }
  | .setGauge key value =>
    { r with metrics.gaugeMetrics := r.metrics.gaugeMetrics.assign key value }
  | .setLoad value => { r with metrics.load := some value }
  | .mergeBuiltIn op => { r with metrics := r.metrics.merge (handleMetrics op).metrics }
  | .send =>
    let (message, metrics) := sendMetrics r.metrics
    ⟨metrics, r.sent ++ [message]⟩

/-- The histogram at a key shows the observations; there is one if there are any. -/
def ShowsAt (histogram : Option HistogramMetric) (observations : List Double) : Prop :=
  match histogram with
  | some h => h.Shows add observations
  | none => observations = []

/-- The observations of a key, split into those of each message and those that
are still to be sent. -/
def Accounts (r : Reporter) (key : String) (observations : List Double) : Prop :=
  ∃ batches pending, batches.flatten ++ pending = observations ∧
    List.Forall₂ (fun message batch => ShowsAt add
      ((message.histograms.find? fun pair => pair.1 = key).map Prod.snd) batch) r.sent batches ∧
    ShowsAt add (r.metrics.histogramMetrics.find key) pending

/-- The histograms have names out of a list, and every one of them fits. -/
structure Bounded (r : Reporter) (names : List String) : Prop where
  keys : ∀ key ∈ r.metrics.histogramMetrics.keys, key ∈ names
  histograms : ∀ key h, r.metrics.histogramMetrics.find key = some h →
    IsCString key ∧ h.upperBounds.length < uint32Size

variable {add}

theorem bounded_new (names : List String) : new.Bounded names :=
  ⟨by simp [new, Metrics.new], by simp [new, Metrics.new]⟩

/-- However long the run is, there are no more histograms than names. -/
theorem Bounded.fits {r : Reporter} {names : List String} (h : r.Bounded names)
    (hnames : names.dedup.length < uint32Size) : r.metrics.HistogramsFit := by
  have hpair : ∀ pair ∈ r.metrics.histogramMetrics.entries,
      IsCString pair.1 ∧ pair.2.upperBounds.length < uint32Size :=
    fun pair hpair => h.histograms pair.1 pair.2 (InsertionMap.find_eq_some.mpr hpair)
  have hkeys : r.metrics.histogramMetrics.keys ⊆ names.dedup :=
    fun key hkey => List.mem_dedup.mpr (h.keys key hkey)
  have hcount : r.metrics.histogramMetrics.keys.length ≤ names.dedup.length :=
    (List.subperm_of_subset r.metrics.histogramMetrics.nodup hkeys).length_le
  rw [InsertionMap.keys, List.length_map] at hcount
  refine ⟨by omega, fun pair hmem => (hpair pair hmem).1, fun pair hmem => ?_⟩
  have hbounds := (hpair pair hmem).2
  rw [HistogramMetric.upperBounds, List.length_map] at hbounds
  exact hbounds

theorem length_upperBounds_new_lt (bucketBoundaries : List Double)
    (h : bucketBoundaries.length + 1 < uint32Size) :
    (HistogramMetric.new bucketBoundaries).upperBounds.length < uint32Size := by
  rw [HistogramMetric.upperBounds_new]
  split_ifs
  · omega
  · rw [List.length_append, List.length_singleton]
    exact h

theorem bounded_act {r : Reporter} {names : List String} (h : r.Bounded names) {action : Action}
    (hfits : action.Fits) (hname : ∀ key ∈ action.histogram, key ∈ names) :
    (r.act add action).Bounded names := by
  cases action with
  | addHistogram key bucketBoundaries =>
    constructor
    · intro key' hkey'
      rcases InsertionMap.mem_keys_emplace.mp hkey' with heq | hold
      · exact heq ▸ hname key rfl
      · exact h.keys key' hold
    · intro key' histogram hfind
      rw [act, InsertionMap.find_emplace] at hfind
      split_ifs at hfind with hkey
      · subst hkey
        cases hold : r.metrics.histogramMetrics.find key with
        | none =>
          rw [hold] at hfind
          obtain rfl := Option.some.inj hfind
          exact ⟨hfits.1, length_upperBounds_new_lt bucketBoundaries hfits.2⟩
        | some old =>
          rw [hold] at hfind
          obtain rfl := Option.some.inj hfind
          exact h.histograms key _ hold
      · exact h.histograms key' histogram hfind
  | record key value =>
    constructor
    · intro key' hkey'
      rcases InsertionMap.mem_keys_assign.mp hkey' with heq | hold
      · exact heq ▸ hname key rfl
      · exact h.keys key' hold
    · intro key' histogram hfind
      rw [act, InsertionMap.find_assign] at hfind
      split_ifs at hfind with hkey
      · subst hkey
        obtain rfl := Option.some.inj hfind
        refine ⟨hfits, ?_⟩
        rw [HistogramMetric.upperBounds_recordObservation]
        cases hold : r.metrics.histogramMetrics.find key with
        | none => exact length_upperBounds_new_lt [] one_lt_uint32Size
        | some old => exact (h.histograms key old hold).2
      · exact h.histograms key' histogram hfind
  | setGauge key value => exact ⟨h.keys, h.histograms⟩
  | setLoad value => exact ⟨h.keys, h.histograms⟩
  | mergeBuiltIn op => exact ⟨h.keys, h.histograms⟩
  | send =>
    constructor
    · intro key hkey
      refine h.keys key ?_
      rw [← InsertionMap.isSome_find] at hkey ⊢
      change ((r.metrics.histogramMetrics.mapValues _).find key).isSome at hkey
      rw [InsertionMap.find_mapValues, Option.isSome_map] at hkey
      exact hkey
    · intro key histogram hfind
      change (r.metrics.histogramMetrics.mapValues _).find key = some histogram at hfind
      rw [InsertionMap.find_mapValues] at hfind
      obtain ⟨old, hold, rfl⟩ := Option.map_eq_some_iff.mp hfind
      rw [HistogramMetric.upperBounds_clearObservations]
      exact h.histograms key old hold

/-- One action: a new observation is pending, and a message takes all that are. -/
theorem accounts_act {r : Reporter} (hfits : r.metrics.HistogramsFit) {key : String}
    {observations : List Double} (h : r.Accounts add key observations) (action : Action) :
    (r.act add action).Accounts add key (observations ++ (action.observes key).toList) := by
  obtain ⟨batches, pending, rfl, hsent, hpending⟩ := h
  cases action with
  | addHistogram key' bucketBoundaries =>
    refine ⟨batches, pending, by simp [Action.observes], hsent, ?_⟩
    rw [act, InsertionMap.find_emplace]
    split_ifs with hkey
    · subst hkey
      cases hfind : r.metrics.histogramMetrics.find key' with
      | none =>
        rw [hfind] at hpending
        subst hpending
        exact HistogramMetric.shows_new bucketBoundaries
      | some old =>
        rw [hfind] at hpending
        exact hpending
    · exact hpending
  | record key' value =>
    by_cases hkey : key' = key
    · subst hkey
      refine ⟨batches, pending ++ [value], by simp [Action.observes], hsent, ?_⟩
      rw [act, InsertionMap.find_assign, if_pos rfl]
      cases hfind : r.metrics.histogramMetrics.find key' with
      | none =>
        rw [hfind] at hpending
        subst hpending
        exact (HistogramMetric.shows_new []).recordObservation value
      | some old =>
        rw [hfind] at hpending
        exact HistogramMetric.Shows.recordObservation hpending value
    · refine ⟨batches, pending, by simp [Action.observes, hkey], hsent, ?_⟩
      rw [act, InsertionMap.find_assign, if_neg hkey]
      exact hpending
  | setGauge key' value => exact ⟨batches, pending, by simp [Action.observes], hsent, hpending⟩
  | setLoad value => exact ⟨batches, pending, by simp [Action.observes], hsent, hpending⟩
  | mergeBuiltIn op => exact ⟨batches, pending, by simp [Action.observes], hsent, hpending⟩
  | send =>
    refine ⟨batches ++ [pending], [], by simp [Action.observes], ?_, ?_⟩
    · refine List.rel_append hsent (List.Forall₂.cons ?_ List.Forall₂.nil)
      show ShowsAt add (((sendMetrics r.metrics).1.histograms.find? _).map Prod.snd) pending
      rw [histograms_sendMetrics hfits]
      exact hpending
    · show ShowsAt add ((r.metrics.histogramMetrics.mapValues _).find key) []
      rw [InsertionMap.find_mapValues]
      cases r.metrics.histogramMetrics.find key with
      | none => rfl
      | some old => exact HistogramMetric.shows_clearObservations old

end Reporter

end SpatialWorkers
