import LinkTrials.Settings.Basic

/-!
Settings in JSON texts. Members that are missing take their defaults; the range of a number is not
looked at here.
-/
namespace LinkTrials.Settings

def schema : Json.Schema Settings where
  title := "struct TestParameters"
  lengthTitle := Json.Schema.elementsTitle "struct TestParameters" 16
  blank := {}
  members :=
    [.of "test_report_alias_name" .defaulted .string fun x s => { s with label := x },
     .of "fast_fail_on_any_error" .defaulted .bool fun x s => { s with failFast := x },
     .of "wifi_country_code" .defaulted .string fun x s => { s with countryCode := x },
     .of "wifi_ssid" .defaulted .string fun x s => { s with ssid := x },
     .of "wifi_password" .defaulted .string fun x s => { s with password := x },
     .of "toggle_airplane_mode_target_side" .defaulted .bool
       fun x s => { s with toggleAirplaneMode := x },
     .of "disconnect_wifi_after_test" .defaulted .bool fun x s => { s with disconnectWifi := x },
     .of "bt_transfer_throughput_benchmark_kbs" .defaulted .real
       fun x s => { s with btBenchmark := x },
     .of "bt_transfer_throughput_kbs_percentile" .defaulted (.natural 255 "u8")
       fun x s => { s with btPercentile := x },
     .of "wifi_transfer_throughput_benchmark_kbs" .defaulted .real
       fun x s => { s with wifiBenchmark := x },
     .of "wifi_transfer_throughput_kbs_percentile" .defaulted (.natural 255 "u8")
       fun x s => { s with wifiPercentile := x },
     .of "payload_type" .defaulted Coded.decoder fun x s => { s with payload := x },
     .of "upgrade_medium" .defaulted Coded.decoder fun x s => { s with medium := x },
     .of "medium_upgrade_type" .defaulted Coded.decoder fun x s => { s with manner := x },
     .of "success_rate_target" .defaulted .real fun x s => { s with successTarget := x },
     .of "reach_rate_target" .defaulted .real fun x s => { s with reachTarget := x }]

def decoder : Json.Decoder Settings := schema.decode

def toJson (s : Settings) : Json :=
  .object
    [("test_report_alias_name", .string s.label),
     ("fast_fail_on_any_error", .bool s.failFast),
     ("wifi_country_code", .string s.countryCode),
     ("wifi_ssid", .string s.ssid),
     ("wifi_password", .string s.password),
     ("toggle_airplane_mode_target_side", .bool s.toggleAirplaneMode),
     ("disconnect_wifi_after_test", .bool s.disconnectWifi),
     ("bt_transfer_throughput_benchmark_kbs", .ofReal s.btBenchmark),
     ("bt_transfer_throughput_kbs_percentile", .ofNat s.btPercentile),
     ("wifi_transfer_throughput_benchmark_kbs", .ofReal s.wifiBenchmark),
     ("wifi_transfer_throughput_kbs_percentile", .ofNat s.wifiPercentile),
     ("payload_type", Coded.toJson s.payload),
     ("upgrade_medium", Coded.toJson s.medium),
     ("medium_upgrade_type", Coded.toJson s.manner),
     ("success_rate_target", .ofReal s.successTarget),
     ("reach_rate_target", .ofReal s.reachTarget)]

end LinkTrials.Settings
