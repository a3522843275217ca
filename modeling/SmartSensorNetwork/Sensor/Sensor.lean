import SmartSensorNetwork.Common.ProtocolTypes

/-!
# The sensors

The base class, the four derived classes and the dispatch between them. The
value type is a parameter with the operations the classes use, `double` in
the program. A random sample is a parameter of `collectData`.
-/

namespace SmartSensorNetwork

variable {α : Type} [LT α] [DecidableLT α] [LE α] [DecidableLE α] [Sub α] [OfScientific α]

/-- The data of the base class. There is no current reading before the first
telemetry message. -/
structure Sensor (α : Type) where
  sensorId : UInt32
  currentReading : Option (TelemetryMessage α) := none
  currentState : SensorState := .active
  currentValue : α

def Sensor.new (id : UInt32) : Sensor α where
  sensorId := id
  currentValue := 0.0

/-! ## Derived classes -/

structure MotionSensor (α : Type) extends Sensor α where
  motionLevel : α

namespace MotionSensor

def threshold : α := 0.5

def new (id : UInt32) : MotionSensor α := { Sensor.new id with motionLevel := 0.0 }

def detectMotion (sensor : MotionSensor α) : Bool := threshold < sensor.motionLevel

def collectData (sensor : MotionSensor α) (sample : α) : α × MotionSensor α :=
  let sensor := { sensor with motionLevel := sample }
  let sensor := { sensor with
    currentValue := sensor.motionLevel
    currentState := if sensor.detectMotion then .active else .warning }
  (sensor.motionLevel, sensor)

end MotionSensor

structure TemperatureSensor (α : Type) extends Sensor α where
  temperatureLevel : α

namespace TemperatureSensor

def warningThreshold : α := 30.0
def errorThreshold : α := 40.0

def new (id : UInt32) : TemperatureSensor α := { Sensor.new id with temperatureLevel := 0.0 }

def collectData (sensor : TemperatureSensor α) (sample : α) : α × TemperatureSensor α :=
  let sensor := { sensor with
    temperatureLevel := sample
    currentValue := sample
    currentState :=
      if sample < warningThreshold then .active
      else if sample < errorThreshold then .warning
      else .error }
  (sensor.temperatureLevel, sensor)

end TemperatureSensor

structure BatterySensor (α : Type) extends Sensor α where
  batteryLevel : α

namespace BatterySensor

def fullBattery : α := 100.0
def warningThreshold : α := 30.0
def errorThreshold : α := 10.0

def new (id : UInt32) : BatterySensor α := { Sensor.new id with batteryLevel := fullBattery }

/-- The sample is how far the battery drains. -/
def collectData (sensor : BatterySensor α) (sample : α) : α × BatterySensor α :=
  let drained := sensor.batteryLevel - sample
  let level := if drained < 0.0 then 0.0 else drained
  let sensor := { sensor with
    batteryLevel := level
    currentValue := level
    currentState :=
      if warningThreshold < level then .active
      else if errorThreshold < level then .warning
      else .error }
  (sensor.batteryLevel, sensor)

end BatterySensor

structure PressureSensor (α : Type) extends Sensor α where
  pressureLevel : α

namespace PressureSensor

def lowerWarningThreshold : α := 98.0
def upperWarningThreshold : α := 104.0
def lowerErrorThreshold : α := 95.0
def upperErrorThreshold : α := 107.0

def new (id : UInt32) : PressureSensor α := { Sensor.new id with pressureLevel := 0.0 }

def collectData (sensor : PressureSensor α) (sample : α) : α × PressureSensor α :=
  let sensor := { sensor with
    pressureLevel := sample
    currentValue := sample
    currentState :=
      if lowerWarningThreshold ≤ sample ∨ sample ≤ upperWarningThreshold then .active
      else if lowerErrorThreshold ≤ sample ∧ sample < lowerWarningThreshold ∨
          upperWarningThreshold < sample ∧ sample ≤ upperErrorThreshold then .warning
      else .error }
  (sensor.pressureLevel, sensor)

end PressureSensor

/-! ## Dispatch -/

/-- What a `Sensor&` refers to. -/
inductive AnySensor (α : Type) where
  | motion (sensor : MotionSensor α)
  | temperature (sensor : TemperatureSensor α)
  | battery (sensor : BatterySensor α)
  | pressure (sensor : PressureSensor α)

namespace AnySensor

def base : AnySensor α → Sensor α
  | .motion sensor => sensor.toSensor
  | .temperature sensor => sensor.toSensor
  | .battery sensor => sensor.toSensor
  | .pressure sensor => sensor.toSensor

def setBase (base : Sensor α) : AnySensor α → AnySensor α
  | .motion sensor => .motion { sensor with toSensor := base }
  | .temperature sensor => .temperature { sensor with toSensor := base }
  | .battery sensor => .battery { sensor with toSensor := base }
  | .pressure sensor => .pressure { sensor with toSensor := base }

def collectData (sample : α) : AnySensor α → α × AnySensor α
  | .motion sensor => (sensor.collectData sample).map id .motion
  | .temperature sensor => (sensor.collectData sample).map id .temperature
  | .battery sensor => (sensor.collectData sample).map id .battery
  | .pressure sensor => (sensor.collectData sample).map id .pressure

def getType : AnySensor α → SensorType
  | .motion _ => .motion
  | .temperature _ => .temperature
  | .battery _ => .battery
  | .pressure _ => .pressure

def createTelemetry (now : UInt64) (sensor : AnySensor α) :
    TelemetryMessage α × AnySensor α :=
  let message := {
    header := { type := .telemetry, sensorId := sensor.base.sensorId, timestampMs := now }
    type := sensor.getType
    state := sensor.base.currentState
    value := sensor.base.currentValue }
  (message, sensor.setBase { sensor.base with currentReading := some message })

def getId (sensor : AnySensor α) : UInt32 := sensor.base.sensorId

/-! ## What a reading keeps -/

theorem getId_collectData (sample : α) (sensor : AnySensor α) :
    (sensor.collectData sample).2.getId = sensor.getId := by
  cases sensor <;> rfl

theorem getType_collectData (sample : α) (sensor : AnySensor α) :
    (sensor.collectData sample).2.getType = sensor.getType := by
  cases sensor <;> rfl

omit [LT α] [DecidableLT α] [LE α] [DecidableLE α] [Sub α] [OfScientific α]

theorem createTelemetry_fst (now : UInt64) (sensor : AnySensor α) :
    (sensor.createTelemetry now).1 = {
      header := { type := .telemetry, sensorId := sensor.getId, timestampMs := now }
      type := sensor.getType
      state := sensor.base.currentState
      value := sensor.base.currentValue } := rfl

theorem getId_createTelemetry (now : UInt64) (sensor : AnySensor α) :
    (sensor.createTelemetry now).2.getId = sensor.getId := by
  cases sensor <;> rfl

theorem getType_createTelemetry (now : UInt64) (sensor : AnySensor α) :
    (sensor.createTelemetry now).2.getType = sensor.getType := by
  cases sensor <;> rfl

end AnySensor

end SmartSensorNetwork
