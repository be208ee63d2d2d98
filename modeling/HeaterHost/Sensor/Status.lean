import HeaterHost.Sensor.Basic

/-!
What a sensor answers when it is asked for its state.
-/

namespace HeaterHost

namespace SensorView

/-- The newest telemetry with all its fields. -/
def debugOutput (v : SensorView) : Option String :=
  v.history.getLast?.map Wire.Telemetry.report

def status (v : SensorView) : Value :=
  .record [
    ("temperature", .hundredths v.last.value),
    ("valid", .flag v.last.valid),
    ("last_debug_timestamp", .ofNumber? v.debugTime),
    ("last_debug_message", .text v.debugLine),
    ("error_flags", .text v.flags.raw),
    ("active_flags", .texts v.flags.active),
    ("link", .text v.linkState.name),
    ("link_stats", v.stats.value)]

end SensorView

end HeaterHost
