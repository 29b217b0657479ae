/-!
# The sample catalogue

A catalogue of large exchanges that is used when no other one is named.
-/

namespace ExchangeBoard.Catalogue

/-- The text of the sample catalogue. -/
def sampleText : String := "# Reference exchange catalogue for the board.
# Hours are indicative local-time defaults, not an official schedule.
exchanges:
  - id: asx
    name: ASX
    city: Sydney
    timezone: Australia/Sydney
    latitude: -33.8688
    longitude: 151.2093
    schedule_template: CONTINUOUS_10:00_16:00
    workdays: MON-FRI
    exceptions:
      - date: \"2025-12-25\"
        closed: true
      - date: \"2025-12-24\"
        half_day_close: \"14:10\"

  - id: tse
    name: Tokyo Stock Exchange
    city: Tokyo
    timezone: Asia/Tokyo
    latitude: 35.6762
    longitude: 139.6503
    schedule_template: SPLIT_09:00_11:30__12:30_15:30
    workdays: MON-FRI
    exceptions:
      - date: \"2026-01-01\"
        closed: true
      - date: \"2026-01-02\"
        closed: true

  - id: sse
    name: Shanghai Stock Exchange
    city: Shanghai
    timezone: Asia/Shanghai
    latitude: 31.2304
    longitude: 121.4737
    schedule_template: SPLIT_09:30_11:30__13:00_15:00

  - id: hkex
    name: Hong Kong Exchanges
    city: Hong Kong
    timezone: Asia/Hong_Kong
    latitude: 22.3193
    longitude: 114.1694
    schedule_template: SPLIT_09:30_12:00__13:00_16:00
    exceptions:
      - date: \"2025-12-24\"
        half_day_close: \"12:00\"

  - id: sgx
    name: Singapore Exchange
    city: Singapore
    timezone: Asia/Singapore
    latitude: 1.3521
    longitude: 103.8198
    schedule_template: SPLIT_09:00_12:00__13:00_17:00

  - id: nse
    name: National Stock Exchange of India
    city: Mumbai
    timezone: Asia/Kolkata
    latitude: 19.0760
    longitude: 72.8777
    schedule_template: EXTENDED_PRE_09:00_09:15__REG_09:15_15:30__POST_15:40_16:00
    exceptions:
      # Muhurat trading: a one-hour special session on a Sunday
      - date: \"2025-10-19\"
        open: \"18:00\"
        close: \"19:00\"

  - id: dfm
    name: Dubai Financial Market
    city: Dubai
    timezone: Asia/Dubai
    latitude: 25.2048
    longitude: 55.2708
    schedule_template: CONTINUOUS_10:00_15:00
    workdays: MON-FRI

  - id: tadawul
    name: Saudi Exchange
    city: Riyadh
    timezone: Asia/Riyadh
    latitude: 24.7136
    longitude: 46.6753
    schedule_template: CONTINUOUS_10:00_15:00
    workdays: SUN-THU

  - id: moex
    name: Moscow Exchange
    city: Moscow
    timezone: Europe/Moscow
    latitude: 55.7558
    longitude: 37.6173
    schedule_template: CONTINUOUS_10:00_18:45

  - id: jse
    name: Johannesburg Stock Exchange
    city: Johannesburg
    timezone: Africa/Johannesburg
    latitude: -26.2041
    longitude: 28.0473
    schedule_template: CONTINUOUS_09:00_17:00

  - id: xetra
    name: Xetra
    city: Frankfurt
    timezone: Europe/Berlin
    latitude: 50.1109
    longitude: 8.6821
    schedule_template: CONTINUOUS_09:00_17:30
    exceptions:
      - date: \"2025-12-24\"
        closed: true

  - id: epa
    name: Euronext Paris
    city: Paris
    timezone: Europe/Paris
    latitude: 48.8566
    longitude: 2.3522
    schedule_template: CONTINUOUS_09:00_17:30

  - id: lse
    name: London Stock Exchange
    city: London
    timezone: Europe/London
    latitude: 51.5074
    longitude: -0.1278
    schedule_template: CONTINUOUS_08:00_16:30
    exceptions:
      - date: \"2025-12-24\"
        half_day_close: \"12:30\"
      - date: \"2025-12-25\"
        closed: true

  - id: b3
    name: B3
    city: São Paulo
    timezone: America/Sao_Paulo
    latitude: -23.5505
    longitude: -46.6333
    schedule_template: CONTINUOUS_10:00_17:30

  - id: bue
    name: Bolsas y Mercados Argentinos
    city: Buenos Aires
    timezone: America/Argentina/Buenos_Aires
    latitude: -34.6037
    longitude: -58.3816
    schedule_template: CONTINUOUS_11:00_17:00

  - id: tsx
    name: Toronto Stock Exchange
    city: Toronto
    timezone: America/Toronto
    latitude: 43.6532
    longitude: -79.3832
    schedule_template: CONTINUOUS_09:30_16:00

  - id: nyse
    name: New York Stock Exchange
    city: New York
    timezone: America/New_York
    latitude: 40.7069
    longitude: -74.0113
    schedule_template: EXTENDED_PRE_04:00_09:30__REG_09:30_16:00__POST_16:00_20:00
    exceptions:
      - date: \"2025-11-28\"
        open: \"09:30\"
        close: \"13:00\"
      - date: \"2025-12-25\"
        closed: true

  - id: nasdaq
    name: Nasdaq
    city: New York
    timezone: America/New_York
    latitude: 40.7569
    longitude: -73.9858
    schedule_template: EXTENDED_PRE_04:00_09:30__REG_09:30_16:00__POST_16:00_20:00
"

end ExchangeBoard.Catalogue
