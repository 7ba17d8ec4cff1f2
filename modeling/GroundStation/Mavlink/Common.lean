import GroundStation.Mavlink.Frame

/-!
# The common dialect

The messages of the common dialect that are not the station's. Most fields take any
number of their width. A field of an enumeration takes only the numbers that are
defined, and a message with another number there cannot be read. Flags that are not
defined stay where they are: the station does not look at these messages.
-/

namespace GroundStation.Mavlink

/-- A field that takes only some of the numbers of its width, the number of octets before
it, and the numbers it takes. -/
structure Choice where
  place : Nat
  width : Nat
  takes : Nat → Bool

namespace Choice

/-- A field of one octet that takes the numbers below a bound. -/
def below (place bound : Nat) : Choice := ⟨place, 1, (· < bound)⟩

/-- Does the field take the number that it has in these octets? -/
def holds (c : Choice) (octets : List UInt8) : Bool :=
  c.takes (numberOf ((octets.drop c.place).take c.width))

end Choice

/-- Is this the number of a mode of flight, with or without the motors armed? -/
def isFlightMode (n : Nat) : Bool := [0, 64, 66, 80, 88, 92, 192, 194, 208, 216, 220].contains n

/-- Is this the number of a type of parameters? -/
def isParameterType (n : Nat) : Bool := 1 ≤ n && n ≤ 10

/-- Is this the number of a type of extended parameters? -/
def isExtendedType (n : Nat) : Bool := 1 ≤ n && n ≤ 11

/-- Is this the number of an orientation of a sensor? -/
def isOrientation (n : Nat) : Bool := n ≤ 40 || n == 100

/-- Is this the number of a mode of a node on the vehicle's own network? -/
def isNodeMode (n : Nat) : Bool := n ≤ 3 || n == 7

/-- Is this the number of a state of flight as traffic management has it? -/
def isFlightState (n : Nat) : Bool := [1, 2, 3, 16, 32].contains n

/-- Is this the number of a kind of payload of a tunnel? -/
def isTunnelPayload (n : Nat) : Bool := n == 0 || (200 ≤ n && n ≤ 209)

/-- The other kinds of messages of the common dialect, with the fields of each that do not
take every number. -/
def commonKinds : List (OtherKind × List Choice) :=
  [(⟨1, "SYS_STATUS", 124, 31⟩, []),
    (⟨2, "SYSTEM_TIME", 137, 12⟩, []),
    (⟨4, "PING", 237, 14⟩, []),
    (⟨5, "CHANGE_OPERATOR_CONTROL", 217, 28⟩, []),
    (⟨6, "CHANGE_OPERATOR_CONTROL_ACK", 104, 3⟩, []),
    (⟨7, "AUTH_KEY", 119, 32⟩, []),
    (⟨8, "LINK_NODE_STATUS", 117, 36⟩, []),
    (⟨11, "SET_MODE", 89, 6⟩, [⟨5, 1, isFlightMode⟩]),
    (⟨20, "PARAM_REQUEST_READ", 214, 20⟩, []),
    (⟨21, "PARAM_REQUEST_LIST", 159, 2⟩, []),
    (⟨22, "PARAM_VALUE", 220, 25⟩, [⟨24, 1, isParameterType⟩]),
    (⟨23, "PARAM_SET", 168, 23⟩, [⟨22, 1, isParameterType⟩]),
    (⟨24, "GPS_RAW_INT", 24, 30⟩, [.below 28 9]),
    (⟨25, "GPS_STATUS", 23, 101⟩, []),
    (⟨26, "SCALED_IMU", 170, 22⟩, []),
    (⟨27, "RAW_IMU", 144, 26⟩, []),
    (⟨28, "RAW_PRESSURE", 67, 16⟩, []),
    (⟨29, "SCALED_PRESSURE", 115, 14⟩, []),
    (⟨31, "ATTITUDE_QUATERNION", 246, 32⟩, []),
    (⟨32, "LOCAL_POSITION_NED", 185, 28⟩, []),
    (⟨34, "RC_CHANNELS_SCALED", 237, 22⟩, []),
    (⟨35, "RC_CHANNELS_RAW", 244, 22⟩, []),
    (⟨36, "SERVO_OUTPUT_RAW", 222, 21⟩, []),
    (⟨37, "MISSION_REQUEST_PARTIAL_LIST", 212, 6⟩, []),
    (⟨38, "MISSION_WRITE_PARTIAL_LIST", 9, 6⟩, []),
    (⟨39, "MISSION_ITEM", 254, 37⟩, [⟨30, 2, isCommand⟩, .below 34 22]),
    (⟨40, "MISSION_REQUEST", 230, 4⟩, []),
    (⟨41, "MISSION_SET_CURRENT", 28, 4⟩, []),
    (⟨42, "MISSION_CURRENT", 28, 2⟩, []),
    (⟨43, "MISSION_REQUEST_LIST", 132, 2⟩, []),
    (⟨44, "MISSION_COUNT", 221, 4⟩, []),
    (⟨45, "MISSION_CLEAR_ALL", 232, 2⟩, []),
    (⟨46, "MISSION_ITEM_REACHED", 11, 2⟩, []),
    (⟨47, "MISSION_ACK", 153, 3⟩, [.below 2 16]),
    (⟨48, "SET_GPS_GLOBAL_ORIGIN", 41, 13⟩, []),
    (⟨49, "GPS_GLOBAL_ORIGIN", 39, 12⟩, []),
    (⟨50, "PARAM_MAP_RC", 78, 37⟩, []),
    (⟨51, "MISSION_REQUEST_INT", 196, 4⟩, []),
    (⟨54, "SAFETY_SET_ALLOWED_AREA", 15, 27⟩, [.below 26 22]),
    (⟨55, "SAFETY_ALLOWED_AREA", 3, 25⟩, [.below 24 22]),
    (⟨61, "ATTITUDE_QUATERNION_COV", 167, 72⟩, []),
    (⟨62, "NAV_CONTROLLER_OUTPUT", 183, 26⟩, []),
    (⟨63, "GLOBAL_POSITION_INT_COV", 119, 181⟩, [.below 180 9]),
    (⟨64, "LOCAL_POSITION_NED_COV", 191, 225⟩, [.below 224 9]),
    (⟨65, "RC_CHANNELS", 118, 42⟩, []),
    (⟨66, "REQUEST_DATA_STREAM", 148, 6⟩, []),
    (⟨67, "DATA_STREAM", 21, 4⟩, []),
    (⟨69, "MANUAL_CONTROL", 243, 11⟩, []),
    (⟨70, "RC_CHANNELS_OVERRIDE", 124, 18⟩, []),
    (⟨73, "MISSION_ITEM_INT", 38, 37⟩, [⟨30, 2, isCommand⟩, .below 34 22]),
    (⟨74, "VFR_HUD", 20, 20⟩, []),
    (⟨80, "COMMAND_CANCEL", 14, 4⟩, [⟨0, 2, isCommand⟩]),
    (⟨81, "MANUAL_SETPOINT", 106, 22⟩, []),
    (⟨82, "SET_ATTITUDE_TARGET", 49, 39⟩, []),
    (⟨83, "ATTITUDE_TARGET", 22, 37⟩, []),
    (⟨85, "POSITION_TARGET_LOCAL_NED", 140, 51⟩, [.below 50 22]),
    (⟨86, "SET_POSITION_TARGET_GLOBAL_INT", 5, 53⟩, [.below 52 22]),
    (⟨87, "POSITION_TARGET_GLOBAL_INT", 150, 51⟩, [.below 50 22]),
    (⟨89, "LOCAL_POSITION_NED_SYSTEM_GLOBAL_OFFSET", 231, 28⟩, []),
    (⟨90, "HIL_STATE", 183, 56⟩, []),
    (⟨91, "HIL_CONTROLS", 63, 42⟩, [⟨40, 1, isFlightMode⟩]),
    (⟨92, "HIL_RC_INPUTS_RAW", 54, 33⟩, []),
    (⟨93, "HIL_ACTUATOR_CONTROLS", 47, 81⟩, []),
    (⟨100, "OPTICAL_FLOW", 175, 26⟩, []),
    (⟨101, "GLOBAL_VISION_POSITION_ESTIMATE", 102, 32⟩, []),
    (⟨102, "VISION_POSITION_ESTIMATE", 158, 32⟩, []),
    (⟨103, "VISION_SPEED_ESTIMATE", 208, 20⟩, []),
    (⟨104, "VICON_POSITION_ESTIMATE", 56, 32⟩, []),
    (⟨106, "OPTICAL_FLOW_RAD", 138, 44⟩, []),
    (⟨107, "HIL_SENSOR", 108, 64⟩, []),
    (⟨108, "SIM_STATE", 32, 84⟩, []),
    (⟨109, "RADIO_STATUS", 185, 9⟩, []),
    (⟨110, "FILE_TRANSFER_PROTOCOL", 84, 254⟩, []),
    (⟨111, "TIMESYNC", 34, 16⟩, []),
    (⟨112, "CAMERA_TRIGGER", 174, 12⟩, []),
    (⟨113, "HIL_GPS", 124, 36⟩, []),
    (⟨114, "HIL_OPTICAL_FLOW", 237, 44⟩, []),
    (⟨115, "HIL_STATE_QUATERNION", 4, 64⟩, []),
    (⟨116, "SCALED_IMU2", 76, 22⟩, []),
    (⟨117, "LOG_REQUEST_LIST", 128, 6⟩, []),
    (⟨118, "LOG_ENTRY", 56, 14⟩, []),
    (⟨119, "LOG_REQUEST_DATA", 116, 12⟩, []),
    (⟨120, "LOG_DATA", 134, 97⟩, []),
    (⟨121, "LOG_ERASE", 237, 2⟩, []),
    (⟨122, "LOG_REQUEST_END", 203, 2⟩, []),
    (⟨123, "GPS_INJECT_DATA", 250, 113⟩, []),
    (⟨124, "GPS2_RAW", 87, 35⟩, [.below 32 9]),
    (⟨125, "POWER_STATUS", 203, 6⟩, []),
    (⟨127, "GPS_RTK", 25, 35⟩, [.below 34 2]),
    (⟨128, "GPS2_RTK", 226, 35⟩, [.below 34 2]),
    (⟨129, "SCALED_IMU3", 46, 22⟩, []),
    (⟨130, "DATA_TRANSMISSION_HANDSHAKE", 29, 13⟩, [.below 10 6]),
    (⟨131, "ENCAPSULATED_DATA", 223, 255⟩, []),
    (⟨132, "DISTANCE_SENSOR", 85, 14⟩, [.below 10 5, ⟨12, 1, isOrientation⟩]),
    (⟨133, "TERRAIN_REQUEST", 6, 18⟩, []),
    (⟨134, "TERRAIN_DATA", 229, 43⟩, []),
    (⟨135, "TERRAIN_CHECK", 203, 8⟩, []),
    (⟨136, "TERRAIN_REPORT", 1, 22⟩, []),
    (⟨137, "SCALED_PRESSURE2", 195, 14⟩, []),
    (⟨138, "ATT_POS_MOCAP", 109, 36⟩, []),
    (⟨139, "SET_ACTUATOR_CONTROL_TARGET", 168, 43⟩, []),
    (⟨140, "ACTUATOR_CONTROL_TARGET", 181, 41⟩, []),
    (⟨141, "ALTITUDE", 47, 32⟩, []),
    (⟨142, "RESOURCE_REQUEST", 72, 243⟩, []),
    (⟨143, "SCALED_PRESSURE3", 131, 14⟩, []),
    (⟨144, "FOLLOW_TARGET", 127, 93⟩, []),
    (⟨146, "CONTROL_SYSTEM_STATE", 103, 100⟩, []),
    (⟨147, "BATTERY_STATUS", 154, 36⟩, [.below 33 5, .below 34 5]),
    (⟨148, "AUTOPILOT_VERSION", 178, 60⟩, []),
    (⟨149, "LANDING_TARGET", 200, 30⟩, [.below 29 22]),
    (⟨162, "FENCE_STATUS", 189, 8⟩, [.below 7 4]),
    (⟨192, "MAG_CAL_REPORT", 36, 44⟩, [.below 42 8]),
    (⟨225, "EFI_STATUS", 208, 65⟩, []),
    (⟨230, "ESTIMATOR_STATUS", 163, 42⟩, []),
    (⟨231, "WIND_COV", 105, 40⟩, []),
    (⟨232, "GPS_INPUT", 151, 63⟩, []),
    (⟨233, "GPS_RTCM_DATA", 35, 182⟩, []),
    (⟨234, "HIGH_LATENCY", 150, 40⟩, [.below 27 5, .below 34 9]),
    (⟨235, "HIGH_LATENCY2", 179, 42⟩, [.below 24 43, .below 25 21]),
    (⟨241, "VIBRATION", 90, 32⟩, []),
    (⟨242, "HOME_POSITION", 104, 52⟩, []),
    (⟨243, "SET_HOME_POSITION", 85, 53⟩, []),
    (⟨244, "MESSAGE_INTERVAL", 95, 6⟩, []),
    (⟨246, "ADSB_VEHICLE", 184, 38⟩, [.below 26 2, .below 36 20]),
    (⟨247, "COLLISION", 81, 19⟩, [.below 16 2, .below 17 7, .below 18 3]),
    (⟨248, "V2_EXTENSION", 8, 254⟩, []),
    (⟨249, "MEMORY_VECT", 204, 36⟩, []),
    (⟨250, "DEBUG_VECT", 49, 30⟩, []),
    (⟨251, "NAMED_VALUE_FLOAT", 170, 18⟩, []),
    (⟨252, "NAMED_VALUE_INT", 44, 18⟩, []),
    (⟨254, "DEBUG", 46, 9⟩, []),
    (⟨256, "SETUP_SIGNING", 71, 42⟩, []),
    (⟨257, "BUTTON_CHANGE", 131, 9⟩, []),
    (⟨258, "PLAY_TUNE", 187, 32⟩, []),
    (⟨259, "CAMERA_INFORMATION", 92, 235⟩, []),
    (⟨260, "CAMERA_SETTINGS", 146, 5⟩, [.below 4 3]),
    (⟨261, "STORAGE_INFORMATION", 179, 27⟩, [.below 26 4]),
    (⟨262, "CAMERA_CAPTURE_STATUS", 12, 18⟩, []),
    (⟨263, "CAMERA_IMAGE_CAPTURED", 133, 255⟩, []),
    (⟨264, "FLIGHT_INFORMATION", 49, 28⟩, []),
    (⟨265, "MOUNT_ORIENTATION", 26, 16⟩, []),
    (⟨266, "LOGGING_DATA", 193, 255⟩, []),
    (⟨267, "LOGGING_DATA_ACKED", 35, 255⟩, []),
    (⟨268, "LOGGING_ACK", 14, 4⟩, []),
    (⟨269, "VIDEO_STREAM_INFORMATION", 109, 213⟩, [.below 20 4]),
    (⟨270, "VIDEO_STREAM_STATUS", 59, 19⟩, []),
    (⟨271, "CAMERA_FOV_STATUS", 22, 52⟩, []),
    (⟨275, "CAMERA_TRACKING_IMAGE_STATUS", 126, 31⟩, [.below 28 3, .below 29 3]),
    (⟨276, "CAMERA_TRACKING_GEO_STATUS", 18, 49⟩, [.below 48 3]),
    (⟨280, "GIMBAL_MANAGER_INFORMATION", 70, 33⟩, []),
    (⟨281, "GIMBAL_MANAGER_STATUS", 48, 13⟩, []),
    (⟨282, "GIMBAL_MANAGER_SET_ATTITUDE", 123, 35⟩, []),
    (⟨283, "GIMBAL_DEVICE_INFORMATION", 74, 144⟩, []),
    (⟨284, "GIMBAL_DEVICE_SET_ATTITUDE", 99, 32⟩, []),
    (⟨285, "GIMBAL_DEVICE_ATTITUDE_STATUS", 137, 40⟩, []),
    (⟨286, "AUTOPILOT_STATE_FOR_GIMBAL_DEVICE", 210, 53⟩, [.below 52 5]),
    (⟨287, "GIMBAL_MANAGER_SET_PITCHYAW", 1, 23⟩, []),
    (⟨288, "GIMBAL_MANAGER_SET_MANUAL_CONTROL", 20, 23⟩, []),
    (⟨290, "ESC_INFO", 251, 46⟩, [.below 44 6]),
    (⟨291, "ESC_STATUS", 10, 57⟩, []),
    (⟨299, "WIFI_CONFIG_AP", 19, 96⟩, []),
    (⟨300, "PROTOCOL_VERSION", 217, 22⟩, []),
    (⟨301, "AIS_VESSEL", 243, 58⟩, [.below 27 16, .below 28 100]),
    (⟨310, "UAVCAN_NODE_STATUS", 28, 17⟩, [.below 14 4, ⟨15, 1, isNodeMode⟩]),
    (⟨311, "UAVCAN_NODE_INFO", 95, 116⟩, []),
    (⟨320, "PARAM_EXT_REQUEST_READ", 243, 20⟩, []),
    (⟨321, "PARAM_EXT_REQUEST_LIST", 88, 2⟩, []),
    (⟨322, "PARAM_EXT_VALUE", 243, 149⟩, [⟨148, 1, isExtendedType⟩]),
    (⟨323, "PARAM_EXT_SET", 78, 147⟩, [⟨146, 1, isExtendedType⟩]),
    (⟨324, "PARAM_EXT_ACK", 132, 146⟩, [⟨144, 1, isExtendedType⟩, .below 145 4]),
    (⟨330, "OBSTACLE_DISTANCE", 23, 158⟩, [.below 156 5]),
    (⟨331, "ODOMETRY", 91, 230⟩, [.below 228 22, .below 229 22]),
    (⟨332, "TRAJECTORY_REPRESENTATION_WAYPOINTS", 236, 239⟩, []),
    (⟨333, "TRAJECTORY_REPRESENTATION_BEZIER", 231, 109⟩, []),
    (⟨334, "CELLULAR_STATUS", 72, 10⟩, [.below 6 13, .below 7 4, .below 8 5]),
    (⟨335, "ISBD_LINK_STATUS", 225, 24⟩, []),
    (⟨336, "CELLULAR_CONFIG", 245, 84⟩, [.below 83 5]),
    (⟨339, "RAW_RPM", 199, 5⟩, []),
    (⟨340, "UTM_GLOBAL_POSITION", 99, 70⟩, [⟨68, 1, isFlightState⟩]),
    (⟨350, "DEBUG_FLOAT_ARRAY", 232, 20⟩, []),
    (⟨360, "ORBIT_EXECUTION_STATUS", 11, 25⟩, [.below 24 22]),
    (⟨370, "SMART_BATTERY_INFO", 75, 87⟩, [.below 19 5, .below 20 5]),
    (⟨373, "GENERATOR_STATUS", 117, 42⟩, []),
    (⟨375, "ACTUATOR_OUTPUT_STATUS", 251, 140⟩, []),
    (⟨380, "TIME_ESTIMATE_TO_TARGET", 232, 20⟩, []),
    (⟨385, "TUNNEL", 147, 133⟩, [⟨0, 2, isTunnelPayload⟩]),
    (⟨386, "CAN_FRAME", 132, 16⟩, []),
    (⟨387, "CANFD_FRAME", 4, 72⟩, []),
    (⟨388, "CAN_FILTER_MODIFY", 8, 37⟩, [.below 35 3]),
    (⟨390, "ONBOARD_COMPUTER_STATUS", 156, 238⟩, []),
    (⟨395, "COMPONENT_INFORMATION", 0, 212⟩, []),
    (⟨400, "PLAY_TUNE_V2", 110, 254⟩, []),
    (⟨401, "SUPPORTED_TUNES", 183, 6⟩, []),
    (⟨410, "EVENT", 160, 53⟩, []),
    (⟨411, "CURRENT_EVENT_SEQUENCE", 106, 3⟩, []),
    (⟨412, "REQUEST_EVENT", 33, 6⟩, []),
    (⟨413, "RESPONSE_EVENT_ERROR", 77, 7⟩, [.below 6 1]),
    (⟨9000, "WHEEL_DISTANCE", 113, 137⟩, []),
    (⟨9005, "WINCH_STATUS", 117, 34⟩, []),
    (⟨12900, "OPEN_DRONE_ID_BASIC_ID", 114, 44⟩, [.below 22 5, .below 23 16]),
    (⟨12901, "OPEN_DRONE_ID_LOCATION", 254, 59⟩,
      [.below 52 5, .below 53 2, .below 54 13, .below 55 7, .below 56 7, .below 57 5,
       .below 58 16]),
    (⟨12902, "OPEN_DRONE_ID_AUTHENTICATION", 140, 53⟩, [.below 26 6]),
    (⟨12903, "OPEN_DRONE_ID_SELF_ID", 249, 46⟩, [.below 22 3]),
    (⟨12904, "OPEN_DRONE_ID_SYSTEM", 77, 54⟩, [.below 50 3, .below 51 2, .below 52 4, .below 53 8]),
    (⟨12905, "OPEN_DRONE_ID_OPERATOR_ID", 49, 43⟩, [.below 22 1]),
    (⟨12915, "OPEN_DRONE_ID_MESSAGE_PACK", 94, 249⟩, [])]

/-- So many octets from the front of a row; octets that are missing count as zero. -/
def completed (size : Nat) (octets : List UInt8) : Vector UInt8 size :=
  Vector.ofFn fun i => octets.getD i.val 0

/-- The row of a number among the other kinds of the common dialect. -/
def commonRow? (id : Nat) : Option (OtherKind × List Choice) :=
  commonKinds.find? fun row => row.1.number.toNat == id

/-- The common dialect. -/
def Dialect.common : Dialect where
  kind? id := (commonRow? id).map (·.1)
  content? kind octets :=
    let content := completed kind.size.toNat octets
    let choices := ((commonRow? kind.number.toNat).map (·.2)).getD []
    if choices.all (·.holds content.toList) then some content else none
  number_of_kind? := by
    intro id kind h
    obtain ⟨row, hrow, rfl⟩ := Option.map_eq_some_iff.mp h
    have hid := List.find?_some hrow
    exact eq_of_beq hid

/-- The messages of a datagram in the common dialect. -/
def messagesOf (octets : List UInt8) : List (Header × Message) :=
  Dialect.common.messagesOf octets

end GroundStation.Mavlink
