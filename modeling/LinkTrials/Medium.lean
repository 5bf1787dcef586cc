import LinkTrials.Coded

/-!
What a trial transfers, over which medium it is asked to connect and over which it ends up, and how
the change of medium is carried out.
-/
namespace LinkTrials

/-- What a throughput was measured for. -/
inductive Payload where
  | file
  | stream
deriving DecidableEq, Repr

/-- The strategy of a trial for choosing a medium. -/
inductive Medium where
  | auto
  | btOnly
  | bleOnly
  | wifiLanOnly
  | wifiAwareOnly
  | upgradeToWebRtc
  | upgradeToWifiHotspot
  | upgradeToWifiDirect
  | bleL2capOnly
  | upgradeToAllWifi
deriving DecidableEq, Repr

/-- The medium that carries a connection once both sides have settled. -/
inductive Carrier where
  | unknown
  | bluetooth
  | wifiHotspot
  | ble
  | wifiLan
  | wifiAware
  | nfc
  | wifiDirect
  | webRtc
  | usb
deriving DecidableEq, Repr

/-- How a change of medium is carried out. -/
inductive UpgradeManner where
  | standard
  | disruptive
  | nonDisruptive
deriving DecidableEq, Repr

instance : Coded Payload where
  title := "PayloadType"
  all := [.file, .stream]
  code
    | .file => 2
    | .stream => 3
  name
    | .file => "FILE"
    | .stream => "STREAM"

instance : Coded Medium where
  title := "NearbyMedium"
  all := [.auto, .btOnly, .bleOnly, .wifiLanOnly, .wifiAwareOnly, .upgradeToWebRtc,
    .upgradeToWifiHotspot, .upgradeToWifiDirect, .bleL2capOnly, .upgradeToAllWifi]
  code
    | .auto => 0
    | .btOnly => 1
    | .bleOnly => 2
    | .wifiLanOnly => 3
    | .wifiAwareOnly => 4
    | .upgradeToWebRtc => 5
    | .upgradeToWifiHotspot => 6
    | .upgradeToWifiDirect => 7
    | .bleL2capOnly => 8
    | .upgradeToAllWifi => 9
  name
    | .auto => "AUTO"
    | .btOnly => "BT_ONLY"
    | .bleOnly => "BLE_ONLY"
    | .wifiLanOnly => "WIFILAN_ONLY"
    | .wifiAwareOnly => "WIFIAWARE_ONLY"
    | .upgradeToWebRtc => "UPGRADE_TO_WEBRTC"
    | .upgradeToWifiHotspot => "UPGRADE_TO_WIFIHOTSPOT"
    | .upgradeToWifiDirect => "UPGRADE_TO_WIFIDIRECT"
    | .bleL2capOnly => "BLE_L2CAP_ONLY"
    | .upgradeToAllWifi => "UPGRADE_TO_ALL_WIFI"

/-- The codes 1 and 10 are reserved. -/
instance : Coded Carrier where
  title := "NearbyConnectionMedium"
  all := [.unknown, .bluetooth, .wifiHotspot, .ble, .wifiLan, .wifiAware, .nfc, .wifiDirect,
    .webRtc, .usb]
  code
    | .unknown => 0
    | .bluetooth => 2
    | .wifiHotspot => 3
    | .ble => 4
    | .wifiLan => 5
    | .wifiAware => 6
    | .nfc => 7
    | .wifiDirect => 8
    | .webRtc => 9
    | .usb => 11
  name
    | .unknown => "UNKNOWN"
    | .bluetooth => "BLUETOOTH"
    | .wifiHotspot => "WIFI_HOTSPOT"
    | .ble => "BLE"
    | .wifiLan => "WIFI_LAN"
    | .wifiAware => "WIFI_AWARE"
    | .nfc => "NFC"
    | .wifiDirect => "WIFI_DIRECT"
    | .webRtc => "WEB_RTC"
    | .usb => "USB"

instance : Coded UpgradeManner where
  title := "MediumUpgradeType"
  all := [.standard, .disruptive, .nonDisruptive]
  code
    | .standard => 0
    | .disruptive => 1
    | .nonDisruptive => 2
  name
    | .standard => "DEFAULT"
    | .disruptive => "DISRUPTIVE"
    | .nonDisruptive => "NON_DISRUPTIVE"

/-- A medium of broadband class, or a change to one. It decides which throughput benchmark
applies. -/
def Medium.isHighQuality : Medium → Bool
  | .wifiLanOnly | .wifiAwareOnly | .upgradeToWebRtc | .upgradeToWifiHotspot
  | .upgradeToWifiDirect | .upgradeToAllWifi => true
  | .auto | .btOnly | .bleOnly | .bleL2capOnly => false

end LinkTrials
