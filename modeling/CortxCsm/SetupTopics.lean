/-
# `CortxCsm.SetupTopics` — the topics that `csm_setup config` makes

`Configure._create_topics` connects to the message bus and makes two topics, each unless it is
listed: it registers the message type, then sets how long and how much the topic keeps.

| the bus is asked to | and this may |
| :-- | :-- |
| take the endpoints and the admin id | fail |
| `list_message_types` | fail |
| `register_message_type`, `set_message_type_expire` | be refused, or be done and the answer lost |

The setup may be run again, with another configuration.

**Proved here.**

    the two functions fill an order each                   (`create_topics_eq`)
    a topic is never changed again, and lacks its retention exactly when
    the attempt that registered it broke off there         (`topics_exact`)
-/
import CortxCsm.Lib.Provision
import CortxCsm.Lib.Raising
import CortxCsm.S3Endpoints

namespace CortxCsm.SetupTopics

open Provision Run

/-! ## Keys -/

def KAFKA_ENDPOINTS : String := "cortx>external>kafka>endpoints"
def KAFKA_NUM_ENDPOINTS : String := "cortx>external>kafka>num_endpoints"

/-- Where the configuration of a topic is. -/
structure TopicKeys where
  message_type : String
  partitions : String
  retention_size : String
  retention_period : String

/-- `const.MSG_BUS_PERF_STAT_…`. -/
def MSG_BUS_PERF_STAT : TopicKeys where
  message_type := "MESSAGEBUS>PRODUCER>STATS>perf>message_type"
  partitions := "MESSAGEBUS>PRODUCER>STATS>perf>partitions"
  retention_size := "MESSAGEBUS>PRODUCER>STATS>perf>retention_size_bytes"
  retention_period := "MESSAGEBUS>PRODUCER>STATS>perf>retention_period_ms"

/-- `const.MSG_BUS_CLUSTER_STOP_…`. -/
def MSG_BUS_CLUSTER_STOP : TopicKeys where
  message_type := "MESSAGEBUS>PRODUCER>CLUSTER_MANAGEMENT>cluster_stop>message_type"
  partitions := "MESSAGEBUS>PRODUCER>CLUSTER_MANAGEMENT>cluster_stop>partitions"
  retention_size := "MESSAGEBUS>PRODUCER>CLUSTER_MANAGEMENT>cluster_stop>retention_size_bytes"
  retention_period := "MESSAGEBUS>PRODUCER>CLUSTER_MANAGEMENT>cluster_stop>retention_period_ms"

/-! ## The bus -/

/-- What is raised while the topics are made; another exception of the bus has its text. -/
inductive TopicExc
  | messageBusError (text : String)
  | exception (text : String)
  | csmSetupError (desc : String)
  | valueError
  | typeError
  deriving DecidableEq

structure Retention where
  expire_time_ms : Int
  data_limit_bytes : Int
  deriving DecidableEq

/-- The message types with their partitions, and their retention where it was set. -/
abbrev Topics := Stock (Option ConfValue) Int Retention

/-- How the calls about one topic end. -/
structure TopicWeather where
  lists : Option TopicExc
  registers : Reply TopicExc
  expires : Reply TopicExc

/-- How `MessageBus.init` and `MessageBusAdmin` end, and the calls after them. -/
structure BusWeather where
  connects : Option TopicExc
  perf_stat : TopicWeather
  cluster_stop : TopicWeather

namespace MessageBusAdmin

/-- A call that changes the bus. -/
def answered (reply : Reply TopicExc) (change : Topics → Topics) : Raising Topics TopicExc Unit :=
  fun topics =>
    match reply with
    | .done => (.ok (), change topics)
    | .lost e => (.error e, change topics)
    | .refused e => (.error e, topics)

def list_message_types (weather : TopicWeather) :
    Raising Topics TopicExc (List (Option ConfValue)) :=
  fun topics =>
    match weather.lists with
    | some e => (.error e, topics)
    | none => (.ok topics.keys, topics)

def register_message_type (weather : TopicWeather) (message_type : Option ConfValue)
    (partitions : Int) : Raising Topics TopicExc Unit :=
  answered weather.registers fun topics => topics.set message_type ⟨partitions, none⟩

def set_message_type_expire (weather : TopicWeather) (message_type : Option ConfValue)
    (expire_time_ms data_limit_bytes : Int) : Raising Topics TopicExc Unit :=
  answered weather.expires fun topics =>
    match topics.get? message_type with
    | some topic =>
        topics.set message_type { topic with fitted := some ⟨expire_time_ms, data_limit_bytes⟩ }
    | none => topics

end MessageBusAdmin

open MessageBusAdmin

/-! ## `Configure` -/

/-- `int(Conf.get(…))`. -/
def conf_int (index : ConfIndex) (key : String) : Except TopicExc Int :=
  match int (index.get? key) with
  | .ok n => .ok n
  | .error .valueError => .error .valueError
  | .error _ => .error .typeError

/-- `_create_perf_stat_topic` and `_create_cluster_stop_topic`, with the keys they read. -/
def create_topic (keys : TopicKeys) (csm : ConfIndex) (weather : TopicWeather) :
    Raising Topics TopicExc Unit := do
  let message_type := csm.get? keys.message_type
  let partitions ← .ofExcept (conf_int csm keys.partitions)
  let retention_size ← .ofExcept (conf_int csm keys.retention_size)
  let retention_period ← .ofExcept (conf_int csm keys.retention_period)
  let listed ← list_message_types weather
  if message_type ∈ listed then pure ()
  else do
    register_message_type weather message_type partitions
    set_message_type_expire weather message_type retention_period retention_size

def _create_perf_stat_topic (csm : ConfIndex) (weather : TopicWeather) :
    Raising Topics TopicExc Unit := create_topic MSG_BUS_PERF_STAT csm weather

def _create_cluster_stop_topic (csm : ConfIndex) (weather : TopicWeather) :
    Raising Topics TopicExc Unit := create_topic MSG_BUS_CLUSTER_STOP csm weather

/-- The part of `_create_topics` before the bus. -/
def message_server_endpoints (consumer : ConfIndex) : Except TopicExc (List ConfValue) :=
  match int (consumer.get? KAFKA_NUM_ENDPOINTS) with
  | .error .valueError =>
      .error (.csmSetupError "Kafka num_endpoints value is not a valid integer.")
  | .error _ => .error .typeError
  | .ok count_endpoints =>
      let endpoints := (List.range count_endpoints.toNat).filterMap fun count =>
        (consumer.get? (endpoint_key KAFKA_ENDPOINTS count)).filter
          fun endpoint => decide endpoint.truthy
      if endpoints = [] then .error (.csmSetupError "Kafka endpoint not found.")
      else .ok endpoints

/-- `_create_topics`; `connects` is asked with the endpoints. -/
def _create_topics (consumer csm : ConfIndex) (weather : List ConfValue → BusWeather) :
    Raising Topics TopicExc Unit := do
  let endpoints ← .ofExcept (message_server_endpoints consumer)
  match (weather endpoints).connects with
  | some e => throw e
  | none =>
      _create_perf_stat_topic csm (weather endpoints).perf_stat
      _create_cluster_stop_topic csm (weather endpoints).cluster_stop

/-- The `try` block of `execute` around it; `str` is the text of an exception. -/
def create_topics (str : TopicExc → String) (consumer csm : ConfIndex)
    (weather : List ConfValue → BusWeather) (topics : Topics) : Except SetupExc Unit × Topics :=
  match _create_topics consumer csm weather topics with
  | (.ok (), topics) => (.ok (), topics)
  | (.error (.messageBusError text), topics) =>
      (.error (.csmSetupError ("Message bus connection error : " ++ text)), topics)
  | (.error e, topics) =>
      (.error (.csmSetupError ("Error occured while creating topics : " ++ str e)), topics)

/-! ## Orders -/

/-- What the configuration asks of a topic. -/
structure TopicSpec where
  message_type : Option ConfValue
  partitions : Int
  retention : Retention
  deriving DecidableEq

def topicSpec (keys : TopicKeys) (csm : ConfIndex) : Except TopicExc TopicSpec := do
  let partitions ← conf_int csm keys.partitions
  let retention_size ← conf_int csm keys.retention_size
  let retention_period ← conf_int csm keys.retention_period
  return ⟨csm.get? keys.message_type, partitions, ⟨retention_period, retention_size⟩⟩

abbrev TopicOrder := Order (Option ConfValue) Int Retention TopicExc

def TopicSpec.order (spec : TopicSpec) (weather : TopicWeather) : TopicOrder :=
  ⟨spec.message_type, spec.partitions, spec.retention, weather.lists, weather.registers,
    weather.expires⟩

section

variable (spec : TopicSpec) (weather : TopicWeather)

@[simp] theorem order_key : (spec.order weather).key = spec.message_type := rfl

@[simp] theorem order_making : (spec.order weather).making = spec.partitions := rfl

@[simp] theorem order_fitting : (spec.order weather).fitting = spec.retention := rfl

@[simp] theorem order_asks : (spec.order weather).asks = weather.lists := rfl

@[simp] theorem order_makes : (spec.order weather).makes = weather.registers := rfl

@[simp] theorem order_fits : (spec.order weather).fits = weather.expires := rfl

end

/-- An order that comes to nothing. -/
def vain (e : TopicExc) : TopicOrder := ⟨none, 0, ⟨0, 0⟩, some e, .refused e, .refused e⟩

def topicOrder (keys : TopicKeys) (csm : ConfIndex) (weather : TopicWeather) : TopicOrder :=
  match topicSpec keys csm with
  | .ok spec => spec.order weather
  | .error e => vain e

/-- One run of the setup. -/
structure Attempt where
  consumer : ConfIndex
  csm : ConfIndex
  weather : List ConfValue → BusWeather

def Attempt.orders (a : Attempt) : List TopicOrder :=
  match message_server_endpoints a.consumer with
  | .error e => [vain e]
  | .ok endpoints =>
      match (a.weather endpoints).connects with
      | some e => [vain e]
      | none =>
          [topicOrder MSG_BUS_PERF_STAT a.csm (a.weather endpoints).perf_stat,
            topicOrder MSG_BUS_CLUSTER_STOP a.csm (a.weather endpoints).cluster_stop]

variable {topics : Topics}

/-- What is done about a message type that is not listed. -/
theorem register_eq (spec : TopicSpec) (weather : TopicWeather) (topics : Topics) :
    (do
        register_message_type weather spec.message_type spec.partitions
        set_message_type_expire weather spec.message_type spec.retention.expire_time_ms
          spec.retention.data_limit_bytes : Raising Topics TopicExc Unit) topics =
      (spec.order weather).make topics := by
  rw [Raising.bind_apply, register_message_type, answered.eq_def, Order.make]
  simp only [order_makes, order_key, order_making]
  cases weather.registers with
  | refused e => rfl
  | lost e => rfl
  | done =>
      have hget : Table.get? (topics.set spec.message_type ⟨spec.partitions, none⟩)
          spec.message_type = some ⟨spec.partitions, none⟩ := by
        rw [Table.get?_set, if_pos rfl]
      dsimp only
      rw [set_message_type_expire, answered.eq_def, Order.fit]
      simp only [order_fits, order_key, order_making, order_fitting, hget]
      cases weather.expires with
      | refused e => rfl
      | lost e => rfl
      | done => rfl

theorem create_topic_eq (keys : TopicKeys) (csm : ConfIndex) (weather : TopicWeather)
    (topics : Topics) :
    create_topic keys csm weather topics = (topicOrder keys csm weather).fill topics := by
  have hvain : ∀ e, topicSpec keys csm = .error e →
      (topicOrder keys csm weather).fill topics = (.error e, topics) := by
    intro e he
    rw [topicOrder, he]
    rfl
  rw [create_topic]
  cases hpartitions : conf_int csm keys.partitions with
  | error e => exact (hvain e (by rw [topicSpec, hpartitions]; rfl)).symm
  | ok partitions =>
      cases hsize : conf_int csm keys.retention_size with
      | error e => exact (hvain e (by rw [topicSpec, hpartitions, hsize]; rfl)).symm
      | ok retention_size =>
          cases hperiod : conf_int csm keys.retention_period with
          | error e => exact (hvain e (by rw [topicSpec, hpartitions, hsize, hperiod]; rfl)).symm
          | ok retention_period =>
              have hspec : topicSpec keys csm = .ok ⟨csm.get? keys.message_type, partitions,
                  ⟨retention_period, retention_size⟩⟩ := by
                rw [topicSpec, hpartitions, hsize, hperiod]
                rfl
              rw [topicOrder, hspec]
              simp only [Raising.ofExcept, pure_bind]
              rw [Raising.bind_apply, list_message_types.eq_def]
              cases hlists : weather.lists with
              | some e => rw [fill_of_asks (by rw [order_asks, hlists])]
              | none =>
                  dsimp only
                  by_cases hlisted : csm.get? keys.message_type ∈ topics.keys
                  · obtain ⟨topic, htopic⟩ := Table.mem_keys.mp hlisted
                    rw [if_pos hlisted, fill_of_present hlists htopic]
                    rfl
                  · rw [if_neg hlisted, fill_of_absent hlists (Table.get?_eq_none.mpr hlisted)]
                    exact register_eq ⟨csm.get? keys.message_type, partitions,
                      ⟨retention_period, retention_size⟩⟩ weather topics

theorem fillAll_one (o : TopicOrder) (topics : Topics) :
    fillAll [o] topics = o.fill topics := by
  cases hfill : (o.fill topics).1 with
  | ok u =>
      rw [fillAll_cons_ok hfill, fillAll]
      exact Prod.ext hfill.symm rfl
  | error e => exact fillAll_cons_error hfill

/-- `_create_topics` fills the orders. -/
theorem create_topics_eq (a : Attempt) (topics : Topics) :
    _create_topics a.consumer a.csm a.weather topics = fillAll a.orders topics := by
  rw [_create_topics, Attempt.orders]
  cases message_server_endpoints a.consumer with
  | error e => rfl
  | ok endpoints =>
      show (match (a.weather endpoints).connects with
        | some e => _
        | none => _ : Raising Topics TopicExc Unit) topics = _
      dsimp only
      cases (a.weather endpoints).connects with
      | some e => rfl
      | none =>
          dsimp only
          rw [Raising.bind_apply, _create_perf_stat_topic, create_topic_eq]
          rcases hfill : (topicOrder MSG_BUS_PERF_STAT a.csm
            (a.weather endpoints).perf_stat).fill topics with ⟨r, topics'⟩
          cases r with
          | error e =>
              rw [fillAll_cons_error (by rw [hfill]), hfill]
          | ok u =>
              rw [fillAll_cons_ok (by rw [hfill]), fillAll_one, hfill]
              exact create_topic_eq _ _ _ _

/-! ## Several runs -/

variable (str : TopicExc → String)

/-- What a run of the setup leaves of the topics. -/
def config (topics : Topics) (a : Attempt) : Topics :=
  (create_topics str a.consumer a.csm a.weather topics).2

/-- The run passes `_create_topics`. -/
def Passes (topics : Topics) (a : Attempt) : Prop :=
  (create_topics str a.consumer a.csm a.weather topics).1 = .ok ()

/-- The run registers the message type and does not set its retention. -/
def CutOff (message_type : Option ConfValue) (topics : Topics) (a : Attempt) : Prop :=
  CutsOff message_type a.orders topics

/-- The configuration of the run asks for the topic. -/
def Attempt.Wants (a : Attempt) (spec : TopicSpec) : Prop :=
  topicSpec MSG_BUS_PERF_STAT a.csm = .ok spec ∨ topicSpec MSG_BUS_CLUSTER_STOP a.csm = .ok spec

variable {str}

theorem create_topics_fillAll (a : Attempt) (topics : Topics) :
    (create_topics str a.consumer a.csm a.weather topics).2 = (fillAll a.orders topics).2 ∧
      ((create_topics str a.consumer a.csm a.weather topics).1 = .ok () →
        (fillAll a.orders topics).1 = .ok ()) := by
  rw [create_topics, create_topics_eq]
  rcases fillAll a.orders topics with ⟨r, topics'⟩
  cases r with
  | ok u => exact ⟨rfl, fun _ => rfl⟩
  | error e =>
      cases e with
      | messageBusError text => exact ⟨rfl, fun h => by cases h⟩
      | exception text => exact ⟨rfl, fun h => by cases h⟩
      | csmSetupError desc => exact ⟨rfl, fun h => by cases h⟩
      | valueError => exact ⟨rfl, fun h => by cases h⟩
      | typeError => exact ⟨rfl, fun h => by cases h⟩

theorem config_eq : config str = fun topics a => attempt topics a.orders := by
  funext topics a
  exact (create_topics_fillAll a topics).1

theorem run_config (topics : Topics) (attempts : List Attempt) :
    run (config str) topics attempts = run attempt topics (attempts.map Attempt.orders) := by
  rw [run_map, config_eq]

theorem mem_visits_config {topics : Topics} {attempts : List Attempt}
    {v : Topics × List TopicOrder} : v ∈ visits attempt topics (attempts.map Attempt.orders) ↔
      ∃ w ∈ visits (config str) topics attempts, (w.1, w.2.orders) = v := by
  rw [mem_visits_map, config_eq]

/-- What is ordered of a topic is what the configuration asks for. -/
theorem topicOrder_wanted {keys : TopicKeys} {csm : ConfIndex} {weather : TopicWeather}
    (h : (topicOrder keys csm weather).asks = none) :
    ∃ spec, topicSpec keys csm = .ok spec ∧ topicOrder keys csm weather = spec.order weather := by
  unfold topicOrder at h ⊢
  cases hspec : topicSpec keys csm with
  | ok spec => exact ⟨spec, rfl, rfl⟩
  | error e =>
      rw [hspec] at h
      cases h

theorem wants_of_order {a : Attempt} {o : TopicOrder} (ho : o ∈ a.orders) (h : o.asks = none) :
    ∃ spec, a.Wants spec ∧ o.key = spec.message_type ∧ o.making = spec.partitions ∧
      o.fitting = spec.retention := by
  have hvain : ∀ e, o ≠ vain e := by
    rintro e rfl
    cases h
  unfold Attempt.orders at ho
  cases hendpoints : message_server_endpoints a.consumer with
  | error e =>
      rw [hendpoints] at ho
      exact absurd (List.mem_singleton.mp ho) (hvain e)
  | ok endpoints =>
      rw [hendpoints] at ho
      dsimp only at ho
      cases hconnects : (a.weather endpoints).connects with
      | some e =>
          rw [hconnects] at ho
          exact absurd (List.mem_singleton.mp ho) (hvain e)
      | none =>
          rw [hconnects] at ho
          rcases List.mem_cons.mp ho with rfl | ho
          · obtain ⟨spec, hspec, horder⟩ := topicOrder_wanted h
            exact ⟨spec, .inl hspec, by rw [horder]; exact ⟨rfl, rfl, rfl⟩⟩
          · cases List.mem_singleton.mp ho
            obtain ⟨spec, hspec, horder⟩ := topicOrder_wanted h
            exact ⟨spec, .inr hspec, by rw [horder]; exact ⟨rfl, rfl, rfl⟩⟩

/-- A run that comes through has ordered both topics. -/
theorem order_of_passes {a : Attempt} {topics : Topics} (h : Passes str topics a)
    {spec : TopicSpec} (hwants : a.Wants spec) :
    ∃ o ∈ a.orders, o.key = spec.message_type := by
  have hfill := (create_topics_fillAll a topics).2 h
  have hkey : ∀ {keys weather}, topicSpec keys a.csm = .ok spec →
      (topicOrder keys a.csm weather).key = spec.message_type := by
    intro keys weather hspec
    rw [topicOrder, hspec]
    rfl
  have hvain : ∀ e, (fillAll [vain e] topics).1 ≠ .ok () := fun e hn => by cases hn
  unfold Attempt.orders at hfill ⊢
  cases hendpoints : message_server_endpoints a.consumer with
  | error e =>
      rw [hendpoints] at hfill
      exact absurd hfill (hvain e)
  | ok endpoints =>
      rw [hendpoints] at hfill
      dsimp only at hfill ⊢
      cases hconnects : (a.weather endpoints).connects with
      | some e =>
          rw [hconnects] at hfill
          exact absurd hfill (hvain e)
      | none =>
          rcases hwants with hspec | hspec
          · exact ⟨_, List.mem_cons_self, hkey hspec⟩
          · exact ⟨_, List.mem_cons_of_mem _ List.mem_cons_self, hkey hspec⟩

/-- **The topics of the setup.**  Over any runs of `csm_setup config`, each with its own
configuration and with any of its calls to the bus failing: a topic that is there is never
changed; one that is new has the partitions, and unless it lacks it the retention, that some
run asked for, and lacks it exactly if the run that registered it broke off before setting it;
and after a run that passes, the topics that its configuration asks for are there. -/
theorem topics_exact (str : TopicExc → String) (topics : Topics) (attempts : List Attempt)
    (message_type : Option ConfValue) :
    let after := run (config str) topics attempts
    (∀ topic, topics.get? message_type = some topic → after.get? message_type = some topic) ∧
      (∀ topic, topics.get? message_type = none → after.get? message_type = some topic →
        (∃ a ∈ attempts, ∃ spec, a.Wants spec ∧ spec.message_type = message_type ∧
          topic.made = spec.partitions ∧
            (topic.fitted = none ∨ topic.fitted = some spec.retention)) ∧
          (topic.fitted = none ↔
            ∃ v ∈ visits (config str) topics attempts, CutOff message_type v.1 v.2)) ∧
        ∀ v ∈ visits (config str) topics attempts, Passes str v.1 v.2 →
          ∀ spec, v.2.Wants spec → (after.get? spec.message_type).isSome := by
  intro after
  have hafter : after = run attempt topics (attempts.map Attempt.orders) := run_config _ _
  refine ⟨?_, ?_, ?_⟩
  · intro topic htopic
    rw [hafter]
    exact get?_run htopic
  · intro topic hnone htopic
    rw [hafter] at htopic
    refine ⟨?_, ?_⟩
    · obtain ⟨orders, horders, o, ho, ⟨_, hmakes⟩, hkey, hmade, hfitted⟩ := of_run hnone htopic
      obtain ⟨a, ha, rfl⟩ := List.mem_map.mp horders
      obtain ⟨spec, hwants, hspec, hpartitions, hretention⟩ := wants_of_order ho hmakes.1
      refine ⟨a, ha, spec, hwants, hspec.symm.trans hkey, hmade.trans hpartitions, ?_⟩
      rw [← hretention]
      exact hfitted
    · have hunfitted : Unfitted (run attempt topics (attempts.map Attempt.orders)) message_type ↔
          _ := unfitted_run
      have hnot : ¬ Unfitted topics message_type := by
        rintro ⟨item, hitem, -⟩
        rw [hnone] at hitem
        cases hitem
      rw [or_iff_right hnot] at hunfitted
      have hlacks : topic.fitted = none ↔
          Unfitted (run attempt topics (attempts.map Attempt.orders)) message_type := by
        constructor
        · exact fun h => ⟨topic, htopic, h⟩
        · rintro ⟨item, hitem, hnone⟩
          cases htopic.symm.trans hitem
          exact hnone
      rw [hlacks, hunfitted]
      constructor
      · rintro ⟨v, hv, hcut⟩
        obtain ⟨w, hw, rfl⟩ := mem_visits_config.mp hv
        exact ⟨w, hw, hcut⟩
      · rintro ⟨w, hw, hcut⟩
        exact ⟨_, mem_visits_config.mpr ⟨w, hw, rfl⟩, hcut⟩
  · intro v hv hpasses spec hwants
    obtain ⟨o, ho, hkey⟩ := order_of_passes hpasses hwants
    rw [hafter, ← hkey]
    exact isSome_of_visit (mem_visits_config.mpr ⟨v, hv, rfl⟩)
      ((create_topics_fillAll v.2 v.1).2 hpasses) o ho

end CortxCsm.SetupTopics
